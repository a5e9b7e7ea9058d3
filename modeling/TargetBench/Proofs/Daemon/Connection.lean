import TargetBench.Daemon.Connection
import TargetBench.Proofs.Collection.Interleaving
import TargetBench.Proofs.Session.Framing
import TargetBench.Proofs.Session.Order

/-!
# Connections as sessions

A connection handles its bytes as they arrive, and a session is served from its first frame to its
end. Once the agent has closed the connection, the two have come to the same. As no activity touches
more than one connection, this is so for every connection of a daemon.

## Main definitions

* `Host.alone`: the session of a number, served alone
* `Connection.transcript?`: all that happened on a connection that is over
* `Connection.serveFrame`: the handling of one frame, whether or not its answer can be sent
* `Connection.take`: the handling of what arrives

## Main results

* `Connection.transcript?_foldl_serveFrame`: handling frames is serving a session
* `Connection.transcript?_foldl_take`: so is taking what arrives
* `Host.getElem?_serve`: every connection of a daemon is as what arrives on it makes it
-/

namespace TargetBench

variable {β : Type}

/-- The session of a number, served alone. -/
def Host.alone (host : Host β) (number : Nat) (writable : Nat → Bool) (stream : FrameStream) :
    Transcript β :=
  Session.serve (host.service number) (host.settings number) writable host.fresh stream

namespace Connection

variable {host : Host β} {writable : Nat → Bool} {c : Connection β}

/-- All that happened on a connection whose session has ended. -/
def transcript? (c : Connection β) : Option (Transcript β) :=
  c.session.ending.map fun ending =>
    ⟨c.exchanges, c.pending, c.session.state, c.session.commands, ending⟩

/-! ## One frame -/

/-- The answer to a command on a connection. -/
def answer (host : Host β) (c : Connection β) (command : Command) : Answer β :=
  dispatch (host.service c.number c.session.commands) (host.settings c.number) c.session.state
    command

/-- The report that the session of a connection has ended. -/
def closing (host : Host β) (c : Connection β) (commands : Nat) (ending : SessionEnd) : Effect :=
  .reported (.closed (host.settings c.number).session commands ending)

/-- A connection after an answer. -/
def answered (c : Connection β) (a : Answer β) : Connection β :=
  { c with
    session := ⟨a.state, c.session.commands + 1, none⟩
    exchanges := c.exchanges ++ [⟨a.response, c.pending ++ a.effects⟩]
    pending := [] }

/-- A connection after an answer that cannot be sent. -/
def unanswered (c : Connection β) (a : Answer β) : Connection β :=
  { c with
    session := ⟨a.state, c.session.commands + 1, none⟩
    pending := c.pending ++ a.effects }

/-- Handles one frame, unless the session has ended. It is given at which commands the connection
takes another line. -/
def serveFrame (host : Host β) (writable : Nat → Bool) (c : Connection β) (frame : List UInt8) :
    Connection β :=
  if c.isOver then c
  else match (decodeBytes frame : Option CommandRecord) with
    | none => c.finish host (.failed .decode)
    | some record =>
      let a := c.answer host record.command
      if ¬ writable c.session.commands then (c.unanswered a).finish host (.failed .write)
      else if a.proceeds then c.answered a
      else (c.answered a).finish host .exited

/-- A connection handles each frame as one that takes every line. -/
theorem handle_eq_serveFrame (host : Host β) :
    handle host = serveFrame host fun _ => true := by
  funext c frame
  -- one of them ends the session through what `advance` says, the other one directly
  unfold handle serveFrame
  cases hover : c.isOver with
  | true => rfl
  | false =>
    have hending : c.session.ending = none := by simpa [isOver] using hover
    cases hframe : (decodeBytes frame : Option CommandRecord) with
    | none =>
      simp only [Bool.false_eq_true, if_false, Session.advance, hframe, List.append_nil]
      rw [← hending]
    | some record =>
      cases hproceeds : (c.answer host record.command).proceeds <;>
      · have hproceeds' := hproceeds
        unfold answer at hproceeds'
        simp only [Bool.false_eq_true, if_false, Session.advance, hframe, not_true_eq_false,
          if_true, hproceeds, hproceeds']
        rfl

/-! ## Connections that are over -/

@[simp] theorem number_finish (host : Host β) (ending : SessionEnd) (c : Connection β) :
    (c.finish host ending).number = c.number := by
  unfold finish
  split <;> rfl

@[simp] theorem begun_finish (host : Host β) (ending : SessionEnd) (c : Connection β) :
    (c.finish host ending).begun = c.begun := by
  unfold finish
  split <;> rfl

@[simp] theorem state_finish (host : Host β) (ending : SessionEnd) (c : Connection β) :
    (c.finish host ending).session.state = c.session.state := by
  unfold finish
  split <;> rfl

theorem isOver_finish (host : Host β) (ending : SessionEnd) (c : Connection β) :
    (c.finish host ending).isOver = true := by
  unfold finish
  split
  · assumption
  · rfl

theorem finish_of_isOver (h : c.isOver = true) (ending : SessionEnd) : c.finish host ending = c :=
  if_pos h

theorem serveFrame_of_isOver (h : c.isOver = true) (frame : List UInt8) :
    c.serveFrame host writable frame = c := if_pos h

theorem foldl_serveFrame_of_isOver (h : c.isOver = true) (frames : List (List UInt8)) :
    frames.foldl (serveFrame host writable) c = c :=
  List.foldl_fixed' (serveFrame_of_isOver h) frames

theorem foldl_serveFrame_finish (frames : List (List UInt8)) (ending ending' : SessionEnd)
    (c : Connection β) :
    ((frames.foldl (serveFrame host writable) (c.finish host ending)).finish host ending') =
      c.finish host ending := by
  have hover := isOver_finish host ending c
  rw [foldl_serveFrame_of_isOver hover, finish_of_isOver hover]

/-! ## Frames -/

theorem transcript?_finish (h : c.isOver = false) (ending : SessionEnd) :
    (c.finish host ending).transcript? =
      some ⟨c.exchanges, c.pending ++ [c.closing host c.session.commands ending], c.session.state,
        c.session.commands, ending⟩ := by
  rw [finish, h]
  rfl

/-- **Handling frames and then ending the session is serving the session.** -/
theorem transcript?_foldl_serveFrame (h : c.isOver = false) (frames : List (List UInt8))
    (last : Option FrameError) {t : Transcript β}
    (ht : Session.run (host.service c.number) (host.settings c.number) writable last c.pending
      c.session frames = t) :
    ((frames.foldl (serveFrame host writable) c).finish host (Session.endingOf last)).transcript? =
      some { t with
        exchanges := c.exchanges ++ t.exchanges
        rest := t.rest ++ [c.closing host t.commands t.ending] } := by
  induction frames generalizing c t with
  | nil =>
    subst ht
    rw [List.foldl_nil, transcript?_finish h, Session.run, List.append_nil]
  | cons frame frames ih =>
    subst ht
    rw [List.foldl_cons, Session.run_cons, serveFrame, if_neg (by simp [h])]
    cases (decodeBytes frame : Option CommandRecord) with
    | none =>
      simp only [foldl_serveFrame_finish]
      rw [transcript?_finish h, List.append_nil]
    | some record =>
      have hanswered : (c.answered (c.answer host record.command)).isOver = false := rfl
      have hunanswered : (c.unanswered (c.answer host record.command)).isOver = false := rfl
      have hanswer : dispatch (host.service c.number c.session.commands) (host.settings c.number)
          c.session.state record.command = c.answer host record.command := rfl
      simp only [hanswer]
      by_cases hwritable : writable c.session.commands = true
      · rw [if_neg (not_not_intro hwritable), if_neg (not_not_intro hwritable)]
        by_cases hproceeds : (c.answer host record.command).proceeds = true
        · -- the session goes on after the answer, and the frames after this one are handled
          rw [if_pos hproceeds, if_pos hproceeds, ih hanswered rfl]
          simp only [Transcript.behind, answered, List.append_assoc, List.singleton_append]
          rfl
        · rw [if_neg hproceeds, if_neg hproceeds, foldl_serveFrame_finish,
            transcript?_finish hanswered]
          rfl
      · rw [if_pos hwritable, if_pos hwritable, foldl_serveFrame_finish,
          transcript?_finish hunanswered, List.append_nil]
        rfl

/-! ## The bytes of a line that has begun

They are of no account for the frames before it. -/

/-- A connection on which other bytes of a line have arrived. -/
def withBegun (c : Connection β) (begun : List UInt8) : Connection β := { c with begun := begun }

@[simp] theorem isOver_withBegun (c : Connection β) (begun : List UInt8) :
    (c.withBegun begun).isOver = c.isOver := rfl

@[simp] theorem number_withBegun (c : Connection β) (begun : List UInt8) :
    (c.withBegun begun).number = c.number := rfl

@[simp] theorem transcript?_withBegun (c : Connection β) (begun : List UInt8) :
    (c.withBegun begun).transcript? = c.transcript? := rfl

@[simp] theorem withBegun_withBegun (c : Connection β) (begun begun' : List UInt8) :
    (c.withBegun begun).withBegun begun' = c.withBegun begun' := rfl

theorem finish_withBegun (ending : SessionEnd) (c : Connection β) (begun : List UInt8) :
    (c.withBegun begun).finish host ending = (c.finish host ending).withBegun begun := by
  unfold finish
  rw [isOver_withBegun]
  split <;> rfl

theorem serveFrame_withBegun (host : Host β) (writable : Nat → Bool) (c : Connection β)
    (begun frame : List UInt8) :
    (c.withBegun begun).serveFrame host writable frame =
      (c.serveFrame host writable frame).withBegun begun := by
  have hanswer : (c.withBegun begun).answer host = c.answer host := rfl
  have hanswered : (c.withBegun begun).answered = fun a => (c.answered a).withBegun begun := rfl
  have hunanswered : (c.withBegun begun).unanswered = fun a => (c.unanswered a).withBegun begun :=
    rfl
  unfold serveFrame
  rw [isOver_withBegun, hanswer, hanswered, hunanswered]
  simp only [finish_withBegun]
  cases c.isOver with
  | true => rfl
  | false =>
    cases (decodeBytes frame : Option CommandRecord) with
    | none => rfl
    | some record =>
      cases hwritable : writable c.session.commands with
      | false => simp [withBegun, hwritable]
      | true =>
        cases hproceeds : (c.answer host record.command).proceeds <;>
          simp [withBegun, hwritable, hproceeds]

theorem begun_serveFrame (c : Connection β) (frame : List UInt8) :
    (c.serveFrame host writable frame).begun = c.begun := by
  have hsame : c.serveFrame host writable frame =
      (c.serveFrame host writable frame).withBegun c.begun :=
    serveFrame_withBegun host writable c c.begun frame
  rw [hsame]
  rfl

theorem foldl_serveFrame_withBegun (frames : List (List UInt8)) (c : Connection β)
    (begun : List UInt8) :
    frames.foldl (serveFrame host writable) (c.withBegun begun) =
      (frames.foldl (serveFrame host writable) c).withBegun begun :=
  List.foldl_hom (withBegun · begun) fun c frame => serveFrame_withBegun host writable c begun frame

/-! ## Pieces of bytes -/

theorem receive_eq (host : Host β) (c : Connection β) (bs : List UInt8) :
    c.receive host bs =
      if (Frame.cut c.begun bs).tooLarge then
        (((Frame.cut c.begun bs).frames.foldl (handle host) c).finish host
          (.failed .frameTooLarge)).withBegun (Frame.cut c.begun bs).begun
      else ((Frame.cut c.begun bs).frames.foldl (handle host) c).withBegun
        (Frame.cut c.begun bs).begun := by
  rw [handle_eq_serveFrame, ← finish_withBegun, ← foldl_serveFrame_withBegun,
    ← handle_eq_serveFrame]
  rfl

/-- The agent's closing is the end of the frames, of which the line that it breaks off is the
last. -/
theorem hangUp_eq (host : Host β) (c : Connection β) :
    (c.hangUp host).withBegun [] =
      (((FrameStream.ofPieces c.begun []).frames.foldl (handle host) c).finish host
        .peerClosed).withBegun [] := by
  unfold hangUp FrameStream.ofPieces
  rw [handle_eq_serveFrame]
  cases c.begun.isEmpty with
  | true => rfl
  | false =>
    have hserve := serveFrame_withBegun host (fun _ => true) c [] c.begun.reverse
    unfold withBegun at hserve
    simp only [Bool.false_eq_true, if_false, List.foldl_cons, List.foldl_nil, hserve]
    show (((c.serveFrame host _ c.begun.reverse).withBegun []).finish host .peerClosed).withBegun []
      = _
    rw [finish_withBegun, withBegun_withBegun]

/-- What arrives on a connection: bytes, or the agent's closing. -/
def take (host : Host β) (c : Connection β) : Option (List UInt8) → Connection β
  | some bs => c.receive host bs
  | none => c.hangUp host

/-- What arrives after the end of a session changes nothing of account. -/
theorem take_of_isOver (host : Host β) (h : c.isOver = true) (i : Option (List UInt8)) :
    (c.take host i).withBegun [] = c.withBegun [] := by
  cases i with
  | some bs =>
    rw [take, receive_eq, handle_eq_serveFrame, foldl_serveFrame_of_isOver h, finish_of_isOver h,
      ite_self, withBegun_withBegun]
  | none => rw [take, hangUp_eq, handle_eq_serveFrame, foldl_serveFrame_of_isOver h,
      finish_of_isOver h]

theorem foldl_take_of_isOver (host : Host β) (h : c.isOver = true)
    (is : List (Option (List UInt8))) :
    (is.foldl (take host) c).withBegun [] = c.withBegun [] := by
  induction is generalizing c with
  | nil => rfl
  | cons i is ih =>
    have htake := take_of_isOver host h i
    have hover : (c.take host i).isOver = true := by
      rw [← isOver_withBegun _ [], htake, isOver_withBegun, h]
    rw [List.foldl_cons, ih hover, htake]

/-- Bytes that arrive in pieces are handled frame by frame, up to the end of the frames. -/
theorem foldl_receive_hangUp (pieces : List (List UInt8)) (c : Connection β) :
    ((pieces.foldl (receive host) c).hangUp host).withBegun [] =
      (((FrameStream.ofPieces c.begun pieces).frames.foldl (handle host) c).finish host
        (Session.endingOf (FrameStream.ofPieces c.begun pieces).error)).withBegun [] := by
  induction pieces generalizing c with
  | nil => exact hangUp_eq host c
  | cons bs pieces ih =>
    rw [List.foldl_cons]
    cases htooLarge : (Frame.cut c.begun bs).tooLarge with
    | true =>
      -- a line that is too long ends the session, and the pieces after it are of no account
      have hover : (c.receive host bs).isOver = true := by
        rw [receive_eq, if_pos htooLarge, isOver_withBegun, isOver_finish]
      have hlast := foldl_take_of_isOver host hover (pieces.map some ++ [none])
      rw [List.foldl_append, List.foldl_map] at hlast
      refine hlast.trans ?_
      rw [receive_eq, if_pos htooLarge, withBegun_withBegun,
        FrameStream.ofPieces_of_tooLarge htooLarge]
      rfl
    | false =>
      rw [ih, receive_eq, if_neg (by simp [htooLarge]),
        FrameStream.ofPieces_of_not_tooLarge htooLarge, handle_eq_serveFrame,
        foldl_serveFrame_withBegun, finish_withBegun, withBegun_withBegun]
      simp only [FrameStream.behind, List.foldl_append]
      rfl

/-! ## Bytes that are none, and bytes after the end -/

/-- The pieces of what arrives until the agent closes the connection. -/
def pieces : List (Option (List UInt8)) → List (List UInt8)
  | [] => []
  | none :: _ => []
  | some bs :: is => if bs.isEmpty then pieces is else bs :: pieces is

theorem filled_pieces (is : List (Option (List UInt8))) : FrameStream.Filled (pieces is) := by
  induction is with
  | nil => nofun
  | cons i is ih =>
    cases i with
    | none => nofun
    | some bs =>
      rw [pieces]
      split
      · exact ih
      · next hbs => exact List.forall_mem_cons.mpr ⟨by simpa using hbs, ih⟩

theorem foldl_take_hangUp (is : List (Option (List UInt8))) (h : c.begun.length ≤ Frame.limit) :
    ((is.foldl (take host) c).hangUp host).withBegun [] =
      (((pieces is).foldl (receive host) c).hangUp host).withBegun [] := by
  induction is generalizing c with
  | nil => rfl
  | cons i is ih =>
    rw [List.foldl_cons]
    cases i with
    | none =>
      -- the agent has closed the connection, and what it does after that is of no account
      have hover : (c.hangUp host).isOver = true := by
        unfold hangUp
        exact isOver_finish ..
      have hlast := foldl_take_of_isOver host hover (is ++ [none])
      rw [List.foldl_append] at hlast
      exact hlast
    | some bs =>
      rw [take, pieces]
      split
      · next hbs =>
        -- no bytes at all complete no frame and leave the line as it is
        rw [List.isEmpty_iff.mp hbs, receive_eq, Frame.cut_nil h]
        exact ih h
      · refine ih ?_
        have hbegun : (c.receive host bs).begun = (Frame.cut c.begun bs).begun := by
          rw [receive_eq]
          split <;> rfl
        rw [hbegun]
        exact Frame.length_begun_cutOnto_le _ _ _ h

/-- **A connection that its agent closes has the transcript of its session**, served alone on what
had arrived until then, in whatever pieces. -/
theorem transcript?_foldl_take (host : Host β) (number : Nat) (is : List (Option (List UInt8))) :
    ((is.foldl (take host) (accept host number)).hangUp host).transcript? =
      some (host.alone number (fun _ => true) (.ofArrivals ((pieces is).map .bytes))) := by
  have hbegun : (accept host number).begun.length ≤ Frame.limit := Nat.zero_le _
  rw [← transcript?_withBegun _ [], foldl_take_hangUp is hbegun, foldl_receive_hangUp,
    transcript?_withBegun, handle_eq_serveFrame, transcript?_foldl_serveFrame rfl _ _ rfl,
    FrameStream.ofArrivals_eq_ofPieces (filled_pieces is)]
  rfl

/-! ## Numbers -/

@[simp] theorem number_serveFrame (host : Host β) (writable : Nat → Bool) (c : Connection β)
    (frame : List UInt8) : (c.serveFrame host writable frame).number = c.number := by
  unfold serveFrame
  split
  · rfl
  · split
    · rw [number_finish]
    · dsimp only
      split
      · rw [number_finish, unanswered]
      · split
        · rw [answered]
        · rw [number_finish, answered]

theorem number_take (host : Host β) (c : Connection β) (i : Option (List UInt8)) :
    (c.take host i).number = c.number := by
  cases i with
  | some bs =>
    rw [take, receive_eq, handle_eq_serveFrame]
    split
    · rw [number_withBegun, number_finish, foldl_keeps number (number_serveFrame host _)]
    · rw [number_withBegun, foldl_keeps number (number_serveFrame host _)]
  | none => rw [take, ← number_withBegun _ [], hangUp_eq, number_withBegun, number_finish,
      handle_eq_serveFrame, foldl_keeps number (number_serveFrame host _)]

end Connection

/-! ## All connections -/

/-- An activity as a turn of the agents. -/
def Activity.turn : Activity → Turn (Option (List UInt8))
  | connect => .joins
  | send place bs => .moves place (some bs)
  | hangUp place => .moves place none

namespace Host

theorem serve_eq_foldl (host : Host β) (activities : List Activity) :
    host.serve activities =
      (activities.map Activity.turn).foldl
        (Turn.act (fun place => .accept host (place + 1)) (Connection.take host)) [] := by
  rw [List.foldl_map, serve]
  congr 1
  funext cs activity
  cases activity <;> rfl

/-- Every connection of a daemon is as what arrives on it makes it. -/
theorem getElem?_serve (host : Host β) (activities : List Activity) (place : Nat) :
    (host.serve activities)[place]? = (Turn.inputs place (activities.map Activity.turn)).map
      fun is => is.foldl (Connection.take host) (.accept host (place + 1)) := by
  rw [serve_eq_foldl, Turn.getElem?_foldl_act]

end Host

end TargetBench
