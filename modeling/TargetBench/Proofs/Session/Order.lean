import TargetBench.Proofs.Session.Answers

/-!
# Frames in order

A session handles the frames of its connection one by one. The frames in front that hold commands
are answered, each by one line; the handling stops at the first request to exit, at the first frame
that holds no command, at the end of the frames, or at the first answer that cannot be sent.

## Main definitions

* `Command.ofFrame?`: the command in a frame
* `Session.Stops`: where the handling of frames stops, and what the session ends with

## Main results

* `Session.run_append`: frames that are answered leave the session to the frames after them
* `Session.exists_front`: all frames are frames that are answered, and then the stop
* `Session.run_in_order`: how a session handles all frames
-/

namespace TargetBench

variable {β : Type}

/-- The command in a frame, if the frame is the record of one. -/
def Command.ofFrame? (frame : List UInt8) : Option Command :=
  (decodeBytes frame : Option CommandRecord).map CommandRecord.command

/-- The frame of a command. -/
def Command.frame (c : Command) : List UInt8 := Utf8.bytes (encodeText c.record)

/-- A service that can neither load nor call anything. -/
def ComponentService.vacant : ComponentService Unit where
  load b r := (.error (.unknownClass r.componentClass), b, [])
  invoke b _ := (.error .nothingLoaded, b, [])
  specification? _ := none

/-- A transcript with exchanges in front. -/
def Transcript.behind (es : List Exchange) (t : Transcript β) : Transcript β :=
  { t with exchanges := es ++ t.exchanges }

namespace Session

/-- A session that goes on after so many commands. -/
def going (b : β) (commands : Nat) : Session β := ⟨b, commands, none⟩

theorem fresh_eq_going (b : β) : fresh b = going b 0 := rfl

variable (service : Nat → ComponentService β) (settings : SessionSettings)
  (writable : Nat → Bool) (last : Option FrameError)

/-! ## One frame -/

theorem run_nil (b : β) (n : Nat) :
    run service settings writable last [] (going b n) [] = ⟨[], [], b, n, endingOf last⟩ := rfl

/-- A frame that holds no command gets no answer and ends the session. -/
theorem run_malformed {frame : List UInt8} (hf : Command.ofFrame? frame = none) (b : β) (n : Nat)
    (more : List (List UInt8)) :
    run service settings writable last [] (going b n) (frame :: more) =
      ⟨[], [], b, n, .failed .decode⟩ := by
  have hd : (decodeBytes frame : Option CommandRecord) = none := Option.map_eq_none_iff.mp hf
  simp [run, advance, going, hd]

/-- What handling a frame with a command comes to, before anything is said about the answer. -/
theorem advance_of_command {frame : List UInt8} {c : Command}
    (hf : Command.ofFrame? frame = some c) (w : Bool) (b : β) (n : Nat) :
    (going b n).advance (service n) settings w frame =
      (⟨(dispatch (service n) settings b c).state, n + 1,
        if ¬ w then some (.failed .write)
        else if (dispatch (service n) settings b c).proceeds then none else some .exited⟩,
        if w then some (dispatch (service n) settings b c).response else none,
        (dispatch (service n) settings b c).effects) := by
  obtain ⟨record, hd, rfl⟩ := Option.map_eq_some_iff.mp hf
  simp only [advance, hd]
  rfl

/-- An answer that cannot be sent ends the session after its command was carried out. -/
theorem run_unwritable {frame : List UInt8} {c : Command}
    (hf : Command.ofFrame? frame = some c) {n : Nat} (hw : writable n = false) (b : β)
    (more : List (List UInt8)) :
    run service settings writable last [] (going b n) (frame :: more) =
      ⟨[], (dispatch (service n) settings b c).effects, (dispatch (service n) settings b c).state,
        n + 1, .failed .write⟩ := by
  have ha := advance_of_command service settings hf (writable n) b n
  simp only [run, show (going b n).commands = n from rfl, ha]
  simp [hw]

/-- The request to exit is answered with success and ends the session. -/
theorem run_exit {frame : List UInt8} (hf : Command.ofFrame? frame = some .exit) {n : Nat}
    (hw : writable n = true) (b : β) (more : List (List UInt8)) :
    run service settings writable last [] (going b n) (frame :: more) =
      ⟨[⟨.success, []⟩], [], b, n + 1, .exited⟩ := by
  have ha := advance_of_command service settings hf (writable n) b n
  simp only [run, show (going b n).commands = n from rfl, ha]
  simp [hw]

/-- Any other command is answered, and the frames after it are handled on the state it leaves. -/
theorem run_command {frame : List UInt8} {c : Command} (hf : Command.ofFrame? frame = some c)
    (hc : c ≠ .exit) {n : Nat} (hw : writable n = true) (b : β) (more : List (List UInt8)) :
    run service settings writable last [] (going b n) (frame :: more) =
      (run service settings writable last []
        (going (dispatch (service n) settings b c).state (n + 1)) more).behind
          [(dispatch (service n) settings b c).exchange] := by
  have hp := (proceeds_dispatch_iff (service n) settings b c).mpr hc
  have ha := advance_of_command service settings hf (writable n) b n
  simp only [run, show (going b n).commands = n from rfl, ha]
  simp [hw, hp, going, Transcript.behind, Answer.exchange]

/-- What the first frame comes to, after effects that no answer has followed yet. -/
theorem run_cons (pending : List Effect) (s : Session β) (frame : List UInt8)
    (frames : List (List UInt8)) :
    run service settings writable last pending s (frame :: frames) =
      match (decodeBytes frame : Option CommandRecord) with
      | none => ⟨[], pending, s.state, s.commands, .failed .decode⟩
      | some record =>
        let a := dispatch (service s.commands) settings s.state record.command
        if ¬ writable s.commands then
          ⟨[], pending ++ a.effects, a.state, s.commands + 1, .failed .write⟩
        else if a.proceeds then
          (run service settings writable last [] ⟨a.state, s.commands + 1, none⟩ frames).behind
            [⟨a.response, pending ++ a.effects⟩]
        else ⟨[⟨a.response, pending ++ a.effects⟩], [], a.state, s.commands + 1, .exited⟩ := by
  rw [run]
  unfold advance
  cases (decodeBytes frame : Option CommandRecord) with
  | none => simp
  | some record =>
    cases writable s.commands with
    | false => simp
    | true =>
      cases hproceeds : (dispatch (service s.commands) settings s.state record.command).proceeds <;>
        simp [hproceeds, Transcript.behind]

/-! ## Many frames -/

/-- Frames that are answered leave the session to the frames after them. -/
theorem run_append {frames : List (List UInt8)} {cs : List Command}
    (hf : frames.map Command.ofFrame? = cs.map some) (hc : .exit ∉ cs) {n : Nat}
    (hw : ∀ i < cs.length, writable (n + i) = true) (b : β) (more : List (List UInt8)) :
    run service settings writable last [] (going b n) (frames ++ more) =
      (run service settings writable last []
        (going (stateAfter service settings n b cs) (n + cs.length)) more).behind
          ((answers service settings n b cs).map Answer.exchange) := by
  induction cs generalizing frames n b with
  | nil =>
    obtain rfl : frames = [] := by simpa using hf
    rfl
  | cons c cs ih =>
    obtain ⟨frame, frames, rfl⟩ : ∃ frame rest, frames = frame :: rest :=
      List.exists_cons_of_ne_nil (by rintro rfl; simp at hf)
    simp only [List.map_cons, List.cons.injEq] at hf
    simp only [List.mem_cons, not_or] at hc
    have hw₀ : writable n = true := hw 0 (by simp)
    have hw' : ∀ i < cs.length, writable (n + 1 + i) = true := fun i hi => by
      rw [Nat.add_assoc, Nat.add_comm 1 i]
      exact hw (i + 1) (by simpa using hi)
    rw [List.cons_append, run_command service settings writable last hf.1 (Ne.symm hc.1) hw₀,
      ih hf.2 hc.2 hw', List.length_cons]
    simp [Transcript.behind, answers, stateAfter, Nat.add_comm, Nat.add_left_comm]

/-- All frames are frames that hold commands other than the request to exit, and then nothing, a
frame that holds no command, or the request to exit. -/
theorem exists_front (frames : List (List UInt8)) :
    ∃ (front rest : List (List UInt8)) (cs : List Command), frames = front ++ rest ∧
      front.map Command.ofFrame? = cs.map some ∧ .exit ∉ cs ∧ ∀ frame ∈ rest.head?,
        Command.ofFrame? frame = none ∨ Command.ofFrame? frame = some .exit := by
  induction frames with
  | nil => exact ⟨[], [], [], rfl, rfl, by simp, by simp⟩
  | cons frame frames ih =>
    cases hf : Command.ofFrame? frame with
    | none => exact ⟨[], frame :: frames, [], rfl, rfl, by simp, by simp [hf]⟩
    | some c =>
      by_cases hc : c = .exit
      · exact ⟨[], frame :: frames, [], rfl, rfl, by simp, by simp [hf, hc]⟩
      · obtain ⟨front, rest, cs, rfl, hfront, hcs, hrest⟩ := ih
        exact ⟨frame :: front, rest, c :: cs, rfl, by simp [hf, hfront],
          by simpa using ⟨Ne.symm hc, hcs⟩, hrest⟩

/-! ## All frames -/

/-- Where the handling of frames stops after the commands `cs`, as long as every answer can be sent,
and what the session ends with. -/
inductive Stops (frames : List (List UInt8)) : List Command → SessionEnd → Prop where
  /-- The last command is the first request to exit. -/
  | exited {cs : List Command} (hc : .exit ∉ cs) : Stops frames (cs ++ [.exit]) .exited
  /-- The frame after the commands is the first that holds none. -/
  | malformed {cs : List Command} (hc : .exit ∉ cs) {frame : List UInt8}
      (hf : frames[cs.length]? = some frame) (hn : Command.ofFrame? frame = none) :
      Stops frames cs (.failed .decode)
  /-- There is no frame after the commands. -/
  | ended {cs : List Command} (hc : .exit ∉ cs) (hl : frames.length = cs.length) :
      Stops frames cs (endingOf last)

/-- **The frames of a connection are handled in order** if every answer can be sent: the commands
`cs` are those of the first frames and are answered one after the other, each by one line; then the
handling stops, and what comes later does not matter. -/
structure InOrder (b : β) (frames : List (List UInt8)) (cs : List Command) (t : Transcript β) :
    Prop where
  commands_of_frames : (frames.take cs.length).map Command.ofFrame? = cs.map some
  stops : Stops last frames cs t.ending
  exchanges : t.exchanges = (answers service settings 0 b cs).map Answer.exchange
  rest : t.rest = []
  state : t.state = stateAfter service settings 0 b cs
  commands : t.commands = t.exchanges.length
  /-- The request to exit is answered with success and nothing else. -/
  farewell : t.ending = .exited → t.exchanges.getLast? = some ⟨.success, []⟩
  /-- After the request to exit no frame is looked at. -/
  after_exit : t.ending = .exited → ∀ last' more,
    run service settings (fun _ => true) last' [] (fresh b) (frames.take cs.length ++ more) = t
  /-- After the frame that holds no command no frame is looked at. -/
  after_malformed : t.ending = .failed .decode → ∀ last' more,
    run service settings (fun _ => true) last' [] (fresh b)
      (frames.take (cs.length + 1) ++ more) = t

/-- **The first answer that cannot be sent ends the session**: the commands `cs` were answered, the
command `c` after them was carried out but not answered, and no later frame is looked at. -/
structure BrokenOff (writable : Nat → Bool) (b : β) (frames : List (List UInt8))
    (cs : List Command) (c : Command) (t : Transcript β) : Prop where
  ending : t.ending = .failed .write
  commands : t.commands = cs.length + 1
  exchanges : t.exchanges = (answers service settings 0 b cs).map Answer.exchange
  rest : t.rest =
    (dispatch (service cs.length) settings (stateAfter service settings 0 b cs) c).effects
  state : t.state = stateAfter service settings 0 b (cs ++ [c])
  later : ∀ last' more,
    run service settings writable last' [] (fresh b) (frames.take (cs.length + 1) ++ more) = t

theorem endingOf_ne_exited : endingOf last ≠ .exited := by
  cases last <;> simp [endingOf]

theorem endingOf_ne_decode : endingOf last ≠ .failed .decode := by
  rcases last with _ | (_ | _) <;> simp [endingOf, SessionError.ofFrameError]

variable {front rest : List (List UInt8)} {cs : List Command}

theorem length_front (hf : front.map Command.ofFrame? = cs.map some) :
    front.length = cs.length := by
  simpa using congrArg List.length hf

theorem take_front (hf : front.map Command.ofFrame? = cs.map some) (frame : List UInt8)
    (more : List (List UInt8)) :
    (front ++ frame :: more).take (cs.length + 1) = front ++ [frame] := by
  rw [← length_front hf, List.take_length_add_append]
  rfl

/-- Without a frame after those that are answered, the session ends as the connection does. -/
theorem inOrder_of_ended (hf : front.map Command.ofFrame? = cs.map some) (hc : .exit ∉ cs) (b : β) :
    InOrder service settings last b front cs
      (run service settings (fun _ => true) last [] (fresh b) front) := by
  have hl := length_front hf
  have hr := run_append service settings (fun _ => true) last hf hc (n := 0) (by simp) b []
  rw [List.append_nil, run_nil, ← fresh_eq_going] at hr
  rw [hr]
  constructor
  case commands_of_frames => rwa [← hl, List.take_length]
  case stops => exact .ended hc hl
  case farewell => exact fun h => absurd h (endingOf_ne_exited last)
  case after_exit => exact fun h => absurd h (endingOf_ne_exited last)
  case after_malformed => exact fun h => absurd h (endingOf_ne_decode last)
  all_goals simp [Transcript.behind]

/-- A frame without a command after those that are answered ends the session. -/
theorem inOrder_of_malformed (hf : front.map Command.ofFrame? = cs.map some) (hc : .exit ∉ cs)
    {frame : List UInt8} (hn : Command.ofFrame? frame = none) (more : List (List UInt8)) (b : β) :
    InOrder service settings last b (front ++ frame :: more) cs
      (run service settings (fun _ => true) last [] (fresh b) (front ++ frame :: more)) := by
  have hl := length_front hf
  have hr (last : Option FrameError) (more : List (List UInt8)) :=
    run_append service settings (fun _ => true) last hf hc (n := 0) (by simp) b (frame :: more)
  simp only [run_malformed service settings _ _ hn, ← fresh_eq_going] at hr
  have ht := take_front hf frame more
  rw [hr]
  constructor
  case commands_of_frames => rw [← hl, List.take_left]; exact hf
  case stops => exact .malformed hc (by simp [← hl]) hn
  case after_malformed => intro _ last' more'; rw [ht, List.append_assoc]; exact hr last' more'
  all_goals simp [Transcript.behind]

/-- The request to exit after the frames that are answered ends the session. -/
theorem inOrder_of_exit (hf : front.map Command.ofFrame? = cs.map some) (hc : .exit ∉ cs)
    {frame : List UInt8} (he : Command.ofFrame? frame = some .exit) (more : List (List UInt8))
    (b : β) :
    InOrder service settings last b (front ++ frame :: more) (cs ++ [.exit])
      (run service settings (fun _ => true) last [] (fresh b) (front ++ frame :: more)) := by
  have hl := length_front hf
  have hr (last : Option FrameError) (more : List (List UInt8)) :=
    run_append service settings (fun _ => true) last hf hc (n := 0) (by simp) b (frame :: more)
  simp only [run_exit service settings (fun _ => true) _ he rfl, ← fresh_eq_going] at hr
  have ht : (front ++ frame :: more).take (cs ++ [Command.exit]).length = front ++ [frame] := by
    rw [List.length_append]
    exact take_front hf frame more
  rw [hr]
  constructor
  case commands_of_frames => rw [ht, List.map_append, hf, List.map_append]; simp [he]
  case stops => exact .exited hc
  case exchanges => simp [Transcript.behind, answers_append, answers, Answer.exchange]
  case state => simp [Transcript.behind, stateAfter_append, stateAfter]
  case after_exit => intro _ last' more'; rw [ht, List.append_assoc]; exact hr last' more'
  all_goals simp [Transcript.behind]

/-- An answer that cannot be sent, after those that can, ends the session. -/
theorem brokenOff_of_unwritable {writable : Nat → Bool}
    (hf : front.map Command.ofFrame? = cs.map some) (hc : .exit ∉ cs) {frame : List UInt8}
    {c : Command} (he : Command.ofFrame? frame = some c) (more : List (List UInt8))
    (hw : ∀ i < cs.length, writable i = true) (hk : writable cs.length = false) (b : β) :
    BrokenOff service settings writable b (front ++ frame :: more) cs c
      (run service settings writable last [] (fresh b) (front ++ frame :: more)) := by
  have hl := length_front hf
  have hr (last : Option FrameError) (more : List (List UInt8)) :=
    run_append service settings writable last hf hc (n := 0) (by simpa using hw) b (frame :: more)
  simp only [Nat.zero_add, run_unwritable service settings writable _ he hk,
    ← fresh_eq_going] at hr
  have ht := take_front hf frame more
  rw [hr]
  constructor
  case state => simp [Transcript.behind, stateAfter_append, stateAfter]
  case later => intro last' more'; rw [ht, List.append_assoc]; exact hr last' more'
  all_goals simp [Transcript.behind]

/-- **A session handles the frames of its connection in order** and stops at the first request to
exit, the first frame that holds no command, the end of the frames, or the first answer that cannot
be sent. -/
theorem run_in_order (b : β) (frames : List (List UInt8)) :
    (∃ cs, InOrder service settings last b frames cs
      (run service settings (fun _ => true) last [] (fresh b) frames)) ∧
    ∀ (writable : Nat → Bool) (cs : List Command) (c : Command),
      (frames.take (cs.length + 1)).map Command.ofFrame? = (cs ++ [c]).map some → .exit ∉ cs →
      (∀ i < cs.length, writable i = true) → writable cs.length = false →
      BrokenOff service settings writable b frames cs c
        (run service settings writable last [] (fresh b) frames) := by
  constructor
  · obtain ⟨front, rest, cs, rfl, hf, hc, hrest⟩ := exists_front frames
    cases rest with
    | nil => exact ⟨cs, by simpa using inOrder_of_ended service settings last hf hc b⟩
    | cons frame more =>
      rcases hrest frame (by simp) with hn | he
      · exact ⟨cs, inOrder_of_malformed service settings last hf hc hn more b⟩
      · exact ⟨cs ++ [.exit], inOrder_of_exit service settings last hf hc he more b⟩
  · intro writable cs c hfc hc hw hk
    have hsplit := List.map_eq_append_iff.mp (hfc.trans List.map_append)
    obtain ⟨front, tail, hft, hf, htail⟩ := hsplit
    obtain ⟨frame, rfl, he⟩ : ∃ frame, tail = [frame] ∧ Command.ofFrame? frame = some c := by
      simpa [List.map_eq_cons_iff] using htail
    have hframes : frames = front ++ frame :: frames.drop (cs.length + 1) := calc
      frames = frames.take (cs.length + 1) ++ frames.drop (cs.length + 1) :=
        (List.take_append_drop _ _).symm
      _ = front ++ frame :: frames.drop (cs.length + 1) := by rw [hft]; simp
    rw [hframes]
    exact brokenOff_of_unwritable service settings last hf hc he _ hw hk b

/-- A listing is answered, the answer to the request to exit cannot be sent, and the listing after
it is not looked at. -/
theorem run_in_order_unsent_exit :
    ([Command.list.frame, Command.exit.frame].map Command.ofFrame? = [some .list, some .exit]) ∧
    BrokenOff (fun _ => .vacant) ⟨1, id, 0⟩ (fun i => i == 0) ()
      [Command.list.frame, Command.exit.frame, Command.list.frame] [.list] .exit
      (run (fun _ => .vacant) ⟨1, id, 0⟩ (fun i => i == 0) none [] (fresh ())
        [Command.list.frame, Command.exit.frame, Command.list.frame]) :=
  ⟨rfl, (run_in_order _ _ none () _).2 _ [.list] .exit rfl (by simp) (by simp) rfl⟩

end Session

end TargetBench
