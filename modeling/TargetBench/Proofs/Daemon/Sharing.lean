import TargetBench.Daemon.Launch
import TargetBench.Proofs.Daemon.Connection
import TargetBench.Proofs.Session.Change
import TargetBench.Proofs.Session.Duration

/-!
# Sessions that share a daemon

The sessions of a daemon load through one registry, call through one table, and read one set of
settings. Here what they share is kept in one place, which each step of each session takes and gives
back, so that a session could disturb the others if its commands changed any of it. They do not:
each session goes the way that it would go alone.

## Main definitions

* `Common δ`: what the sessions share
* `Own δ`: what a session has to itself
* `Pool.act`: a step of one of the sessions, on what they share

## Main results

* `Common.Underlies.dispatch`: no command changes what the sessions share
* `Pool.run_eq`: a pool is a row of sessions, each with a builder of its own
* `sessions_independent`: each session goes the way that it would go alone
-/

namespace TargetBench

/-- What the sessions of a daemon share. -/
structure Common (δ : Type) where
  settings : LoadSettings
  registry : DriverRegistry δ
  /-- The table of all drivers. -/
  table : FunctionTable δ
  /-- What a status probe about a matter gives. -/
  status : Signed 32 → Signed 32
  /-- Calls that take longer, in nanoseconds, are warned about. -/
  slowCall : Nat

/-- What a session has to itself: the component that it has loaded, but for the table. -/
structure Own (δ : Type) where
  path : String
  key : DriverKey
  specification : Interface
  state : δ

variable {β γ δ : Type}

/-- What a builder has to itself. -/
def Builder.own (b : Builder δ) : Option (Own δ) :=
  b.loaded.map fun l => ⟨l.path, l.key, l.specification, l.driver.state⟩

namespace Common

/-- The builder of a session. -/
def builder (k : Common δ) (o : Option (Own δ)) : Builder δ :=
  ⟨k.settings, k.registry, o.map fun o => ⟨o.path, o.key, o.specification, ⟨k.table, o.state⟩⟩⟩

/-- What a session with a builder leaves of what it shares. -/
def after (k : Common δ) (b : Builder δ) : Common δ :=
  { k with
    settings := b.settings
    registry := b.registry
    table := (b.loaded.map fun l => l.driver.table).getD k.table }

/-- What every session can do. -/
def host (k : Common δ) (fs : FileSystem) (elapsed : Nat → Nat → Unsigned 64) :
    Host (Builder δ) where
  service session command := Builder.service fs (elapsed session command)
  settings session := ⟨session, k.status, k.slowCall⟩
  fresh := k.builder none

/-- Every driver that can be opened has the table that is shared. -/
def Sound (k : Common δ) : Prop := (k.builder none).Serves k.table

/-- A builder is one of a session that shares `k`. -/
structure Underlies (k : Common δ) (b : Builder δ) : Prop where
  settings : b.settings = k.settings
  registry : b.registry = k.registry
  serves : b.Serves k.table

variable {k : Common δ} {b : Builder δ}

theorem underlies_builder (h : k.Sound) (o : Option (Own δ)) : k.Underlies (k.builder o) := by
  refine ⟨rfl, rfl, h.opened, fun l hl => ?_⟩
  obtain ⟨o, -, rfl⟩ := Option.map_eq_some_iff.mp hl
  rfl

namespace Underlies

/-- **No command changes what the sessions share.** -/
theorem dispatch {fs : FileSystem} {elapsed : Unsigned 64} {s : SessionSettings}
    (h : k.Underlies b) (c : Command) :
    k.Underlies (dispatch (Builder.service fs elapsed) s b c).state := by
  -- at most the loaded component is another one, and that is called through the same table
  rcases dispatch_state_cases b c with hstate | ⟨r, i, f, d, -, -, -, -, hstate⟩ |
    ⟨description, l, state, -, -, hstate⟩ <;>
  · refine ⟨?_, ?_, h.serves.dispatch c⟩
    · rw [hstate]
      exact h.settings
    · rw [hstate]
      exact h.registry

theorem after_eq (h : k.Underlies b) : k.after b = k := by
  obtain ⟨settings, registry, loaded⟩ := b
  obtain ⟨rfl, rfl, hserves⟩ := h
  cases loaded with
  | none => rfl
  | some l =>
    have htable := hserves.loaded l rfl
    rw [after, Option.map_some, Option.getD_some, htable]

theorem builder_own (h : k.Underlies b) : k.builder b.own = b := by
  obtain ⟨settings, registry, loaded⟩ := b
  obtain ⟨rfl, rfl, hserves⟩ := h
  cases loaded with
  | none => rfl
  | some l =>
    have htable := hserves.loaded l rfl
    rw [builder, Builder.own, ← htable]
    rfl

end Underlies

end Common

/-! ## Steps of a session -/

/-- What comes next on a connection: one more frame, or the end of the frames. -/
inductive Input where
  | frame (bs : List UInt8)
  | ended (error : Option FrameError)

/-- The frames of inputs, and how they end; when nothing more comes, the connection is closed. -/
def FrameStream.ofInputs : List Input → FrameStream
  | [] => ⟨[], none⟩
  | .frame bs :: inputs => (ofInputs inputs).behind [bs]
  | .ended error :: _ => ⟨[], error⟩

namespace Connection

variable {host : Host β} {writable : Nat → Nat → Bool} {c : Connection β}

/-- One more step of a session. It is given at which commands the connection of a session takes
another line. -/
def step (host : Host β) (writable : Nat → Nat → Bool) (c : Connection β) : Input → Connection β
  | .frame bs => c.serveFrame host (writable c.number) bs
  | .ended error => c.finish host (Session.endingOf error)

/-- A connection with another view of the state of its session. -/
def map (f : β → γ) (c : Connection β) : Connection γ :=
  ⟨c.number, c.begun, ⟨f c.session.state, c.session.commands, c.session.ending⟩, c.exchanges,
    c.pending⟩

theorem map_map {α : Type} (f : β → γ) (g : γ → α) (c : Connection β) :
    (c.map f).map g = c.map (g ∘ f) := rfl

theorem map_of_state {f : β → β} (h : f c.session.state = c.session.state) : c.map f = c := by
  rw [map, h]

@[simp] theorem number_step (host : Host β) (writable : Nat → Nat → Bool) (c : Connection β)
    (i : Input) : (c.step host writable i).number = c.number := by
  cases i <;> simp [step]

theorem begun_step (c : Connection β) (i : Input) : (c.step host writable i).begun = c.begun := by
  cases i with
  | frame bs => exact begun_serveFrame c bs
  | ended error => exact begun_finish host _ c

theorem step_of_isOver (h : c.isOver = true) (i : Input) : c.step host writable i = c := by
  cases i with
  | frame bs => exact serveFrame_of_isOver h bs
  | ended error => exact finish_of_isOver h _

/-- What every command keeps is kept by every step. -/
theorem step_induction {P : β → Prop}
    (keep : ∀ n b command, P b →
      P (dispatch (host.service c.number n) (host.settings c.number) b command).state)
    (start : P c.session.state) (i : Input) : P (c.step host writable i).session.state := by
  cases i with
  | ended error =>
    rw [step, state_finish]
    exact start
  | frame bs =>
    show P (c.serveFrame host (writable c.number) bs).session.state
    unfold serveFrame
    split
    · exact start
    · cases (decodeBytes bs : Option CommandRecord) with
      | none =>
        simp only [state_finish]
        exact start
      | some record =>
        -- however the session goes on, its state is the one that the answer leaves
        have hanswer := keep c.session.commands c.session.state record.command start
        dsimp only
        split
        · rw [state_finish]
          exact hanswer
        · split
          · exact hanswer
          · rw [state_finish]
            exact hanswer

/-- The steps of a session, up to the end of its frames, are its frames and their end. -/
theorem foldl_step_finish (is : List Input) (c : Connection β) :
    (is.foldl (step host writable) c).finish host .peerClosed =
      ((FrameStream.ofInputs is).frames.foldl (serveFrame host (writable c.number)) c).finish host
        (Session.endingOf (FrameStream.ofInputs is).error) := by
  induction is generalizing c with
  | nil => rfl
  | cons i is ih =>
    rw [List.foldl_cons]
    cases i with
    | ended error =>
      rw [step, List.foldl_fixed' (step_of_isOver (isOver_finish ..)),
        finish_of_isOver (isOver_finish ..)]
      rfl
    | frame bs =>
      rw [ih, number_step]
      rfl

/-- A session that takes its steps one by one has the transcript of the session served alone. -/
theorem transcript?_foldl_step (host : Host β) (number : Nat) (is : List Input) :
    ((is.foldl (step host writable) (accept host number)).hangUp host).transcript? =
      some (host.alone number (writable number) (.ofInputs is)) := by
  rw [hangUp, foldl_keeps begun begun_step]
  exact (congrArg transcript? (foldl_step_finish is _)).trans
    (transcript?_foldl_serveFrame rfl _ _ rfl)

end Connection

/-! ## Sessions side by side -/

/-- Sessions side by side, with what they share in one place. -/
structure Pool (δ : Type) where
  common : Common δ
  connections : List (Connection (Option (Own δ)))

namespace Pool

variable {k : Common δ}

/-- One more turn. The session whose turn it is takes what is shared, and leaves what its step has
made of it to the others. -/
def act (fs : FileSystem) (elapsed : Nat → Nat → Unsigned 64) (writable : Nat → Nat → Bool)
    (p : Pool δ) : Turn Input → Pool δ
  | .joins =>
    let c := Connection.accept (p.common.host fs elapsed) (p.connections.length + 1)
    ⟨p.common.after c.session.state, p.connections ++ [c.map Builder.own]⟩
  | .moves place i => match p.connections[place]? with
    | none => p
    | some c =>
      let c := (c.map p.common.builder).step (p.common.host fs elapsed) writable i
      ⟨p.common.after c.session.state, p.connections.set place (c.map Builder.own)⟩

/-- The sessions, each with its builder. -/
def view (p : Pool δ) : List (Connection (Builder δ)) :=
  p.connections.map (Connection.map p.common.builder)

/-- The sessions after some turns. -/
def run (fs : FileSystem) (elapsed : Nat → Nat → Unsigned 64) (writable : Nat → Nat → Bool)
    (k : Common δ) (turns : List (Turn Input)) : Pool δ :=
  turns.foldl (act fs elapsed writable) ⟨k, []⟩

theorem map_own_builder {c : Connection (Builder δ)} (h : k.Underlies c.session.state) :
    (c.map Builder.own).map k.builder = c := by
  rw [Connection.map_map]
  exact Connection.map_of_state h.builder_own

/-- A turn leaves what is shared as it is, and changes the session whose turn it is as if that had a
builder of its own. -/
theorem act_eq (fs : FileSystem) (elapsed : Nat → Nat → Unsigned 64)
    (writable : Nat → Nat → Bool) {p : Pool δ} (h : p.common.Sound) (turn : Turn Input) :
    (p.act fs elapsed writable turn).common = p.common ∧
      (p.act fs elapsed writable turn).view =
        Turn.act (fun place => .accept (p.common.host fs elapsed) (place + 1))
          (Connection.step (p.common.host fs elapsed) writable) p.view turn := by
  obtain ⟨k, connections⟩ := p
  cases turn with
  | joins =>
    have hfresh : k.Underlies (Connection.accept (k.host fs elapsed)
        (connections.length + 1)).session.state := Common.underlies_builder h none
    simp only [act, view, Turn.act, hfresh.after_eq, List.map_append, List.map_cons, List.map_nil,
      List.length_map, map_own_builder hfresh, and_self]
  | moves place i =>
    cases hc : connections[place]? with
    | none =>
      have hlength : connections.length ≤ place := List.getElem?_eq_none_iff.mp hc
      simp only [act, hc, view, Turn.act, true_and]
      rw [List.modify_eq_self (by simpa using hlength)]
    | some c =>
      -- what is shared after the step is what was shared before, so the others look the same
      have hstep : k.Underlies ((c.map k.builder).step (k.host fs elapsed) writable
          i).session.state :=
        Connection.step_induction (fun _ _ command hb => hb.dispatch command)
          (Common.underlies_builder h c.session.state) i
      simp only [act, hc, view, Turn.act, hstep.after_eq, true_and, List.map_set,
        map_own_builder hstep]
      apply List.ext_getElem?
      intro j
      rw [List.getElem?_set, List.getElem?_modify]
      by_cases hj : place = j
      · subst hj
        obtain ⟨hlt, rfl⟩ := List.getElem?_eq_some_iff.mp hc
        simp [hlt]
      · simp [hj]

/-- **A pool is a row of sessions, each with a builder of its own.** -/
theorem run_eq (fs : FileSystem) (elapsed : Nat → Nat → Unsigned 64)
    (writable : Nat → Nat → Bool) (h : k.Sound) (turns : List (Turn Input)) :
    (run fs elapsed writable k turns).common = k ∧
      (run fs elapsed writable k turns).view =
        turns.foldl (Turn.act (fun place => .accept (k.host fs elapsed) (place + 1))
          (Connection.step (k.host fs elapsed) writable)) [] := by
  -- by induction on the turns, from any pool that shares `k`
  suffices hgeneral : ∀ p : Pool δ, p.common = k →
      (turns.foldl (act fs elapsed writable) p).common = k ∧
        (turns.foldl (act fs elapsed writable) p).view =
          turns.foldl (Turn.act (fun place => .accept (k.host fs elapsed) (place + 1))
            (Connection.step (k.host fs elapsed) writable)) p.view from hgeneral ⟨k, []⟩ rfl
  induction turns with
  | nil => exact fun p hp => ⟨hp, rfl⟩
  | cons turn turns ih =>
    rintro p rfl
    obtain ⟨hcommon, hview⟩ := act_eq fs elapsed writable h turn
    rw [List.foldl_cons, List.foldl_cons, ← hview]
    exact ih _ hcommon

end Pool

/-! ## Independence -/

/-- A connection goes the way of a session: it has its number, and it has its transcript, durations
and log records aside, when the agent closes it or when the session has ended before that. -/
structure Connection.GoesAs (host : Host β) (c : Connection β) (number : Nat) (t : Transcript β) :
    Prop where
  number : c.number = number
  closed : ∃ t', (c.hangUp host).transcript? = some t' ∧ t'.SameButTime t
  ended : c.isOver → ∃ t', c.transcript? = some t' ∧ t'.SameButTime t

theorem Connection.goesAs {host : Host β} {c : Connection β} {number : Nat} {t t' : Transcript β}
    (hnumber : c.number = number) (hclosed : (c.hangUp host).transcript? = some t')
    (hsame : t'.SameButTime t) : c.GoesAs host number t := by
  refine ⟨hnumber, ⟨t', hclosed, hsame⟩, fun hover => ⟨t', ?_, hsame⟩⟩
  have htake := congrArg transcript? (take_of_isOver host hover none)
  rw [transcript?_withBegun, transcript?_withBegun, take, hclosed] at htake
  exact htake.symm

/-- What the sessions of a daemon share. -/
def Configuration.common (c : Configuration) (fs : FileSystem) (status : Signed 32 → Signed 32) :
    Common Loopback where
  settings := ⟨c.specDir, c.serviceName, .ofPath fs c.callbackSocket⟩
  registry := DriverRegistry.standard
  table := Loopback.table
  status := status
  slowCall := c.slowCallMs.val.toNat * Dispatch.millisecond

theorem Configuration.host_common (c : Configuration) (fs : FileSystem)
    (status : Signed 32 → Signed 32) (elapsed : Nat → Nat → Unsigned 64) :
    (c.common fs status).host fs elapsed = c.host fs status elapsed := rfl

theorem Configuration.sound_common (c : Configuration) (fs : FileSystem)
    (status : Signed 32 → Signed 32) : (c.common fs status).Sound :=
  Builder.serves_fresh_standard _

theorem Configuration.alone_sameButTime (c : Configuration) (fs : FileSystem)
    (status : Signed 32 → Signed 32) (elapsed elapsed' : Nat → Nat → Unsigned 64) (number : Nat)
    (writable : Nat → Bool) (stream : FrameStream) :
    ((c.host fs status elapsed).alone number writable stream).SameButTime
      ((c.host fs status elapsed').alone number writable stream) :=
  Session.serve_sameButTime (fun _ => fs) (elapsed number) (elapsed' number) _ writable _ stream

/-- **Each session of a daemon goes the way that it would go alone**, whatever the others do and
however long calls take: the session of the connection that is accepted in a place has the number
of the place, and it answers, reports, notifies, ends and leaves its builder as if it was served
alone on its own input. This is so step by step, where sessions share what a daemon shares and
their connections may refuse lines; what they share is never changed. And it is so for what the
agents of a daemon send, in whatever pieces. -/
theorem sessions_independent (c : Configuration) (fs : FileSystem)
    (status : Signed 32 → Signed 32) (elapsed elapsed' : Nat → Nat → Unsigned 64) :
    (∀ (writable : Nat → Nat → Bool) (turns : List (Turn Input)),
      (Pool.run fs elapsed writable (c.common fs status) turns).common = c.common fs status ∧
      ∀ place, Option.Rel
        (fun connection inputs => connection.GoesAs (c.host fs status elapsed) (place + 1)
          ((c.host fs status elapsed').alone (place + 1) (writable (place + 1))
            (.ofInputs inputs)))
        (Pool.run fs elapsed writable (c.common fs status) turns).view[place]?
        (Turn.inputs place turns)) ∧
    ∀ (activities : List Activity) (place : Nat), Option.Rel
      (fun connection inputs => connection.GoesAs (c.host fs status elapsed) (place + 1)
        ((c.host fs status elapsed').alone (place + 1) (fun _ => true)
          (.ofArrivals ((Connection.pieces inputs).map .bytes))))
      ((c.host fs status elapsed).serve activities)[place]?
      (Turn.inputs place (activities.map Activity.turn)) := by
  refine ⟨fun writable turns => ?_, fun activities place => ?_⟩
  · obtain ⟨hcommon, hview⟩ := Pool.run_eq fs elapsed writable (c.sound_common fs status) turns
    refine ⟨hcommon, fun place => ?_⟩
    rw [hview, Turn.getElem?_foldl_act, c.host_common]
    cases Turn.inputs place turns with
    | none => exact .none
    | some inputs =>
      have hnumber := foldl_keeps Connection.number
        (Connection.number_step (c.host fs status elapsed) writable) inputs
      exact .some (Connection.goesAs (hnumber _) (Connection.transcript?_foldl_step _ _ inputs)
        (c.alone_sameButTime fs status elapsed elapsed' ..))
  · rw [Host.getElem?_serve]
    cases Turn.inputs place (activities.map Activity.turn) with
    | none => exact .none
    | some inputs =>
      have hnumber := foldl_keeps Connection.number
        (Connection.number_take (c.host fs status elapsed)) inputs
      exact .some (Connection.goesAs (hnumber _) (Connection.transcript?_foldl_take _ _ inputs)
        (c.alone_sameButTime fs status elapsed elapsed' ..))

end TargetBench
