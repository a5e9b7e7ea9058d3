import Mathlib.Data.List.Forall2
import TargetBench.Proofs.Session.Order

/-!
# Durations of calls

How long a call takes shows in its result, and in the log if it is long, and nowhere else. Two
sessions that receive the same frames, and in which calls take different times, go the same way.

## Main definitions

* `Response.SameButTime`: the same response, the duration of a call aside
* `Effect.told`: what is told of, to observers or to the agent
* `Transcript.SameButTime`: the same session, durations and log records aside

## Main results

* `dispatch_sameButTime`: a command has the same effect however long it takes
* `Session.serve_sameButTime`: so has a whole session
-/

namespace TargetBench

variable {β δ : Type}

/-- The same response, the duration of the call that it is about aside. -/
inductive Response.SameButTime : Response → Response → Prop where
  | refl (r : Response) : SameButTime r r
  | call (r : CallResult) (elapsed : Unsigned 64) :
      SameButTime (.ofMessage (encodeText r))
        (.ofMessage (encodeText { r with elapsed := elapsed }))

/-- Whether an effect is told of, to observers or to the agent, and not only logged. -/
def Effect.isTold : Effect → Bool
  | logged _ => false
  | _ => true

/-- The effects that are told of. -/
def Effect.told (es : List Effect) : List Effect := es.filter isTold

@[simp] theorem Effect.told_append (es fs : List Effect) : told (es ++ fs) = told es ++ told fs :=
  List.filter_append ..

/-- The same answer, durations and log records aside. -/
structure Answer.SameButTime (a a' : Answer β) : Prop where
  response : a.response.SameButTime a'.response
  proceeds : a.proceeds = a'.proceeds
  state : a.state = a'.state
  effects : Effect.told a.effects = Effect.told a'.effects

theorem Answer.SameButTime.refl (a : Answer β) : a.SameButTime a := ⟨.refl _, rfl, rfl, rfl⟩

/-- The same exchange, durations and log records aside. -/
structure Exchange.SameButTime (e e' : Exchange) : Prop where
  response : e.response.SameButTime e'.response
  effects : Effect.told e.effects = Effect.told e'.effects

/-- The same session, durations and log records aside: the same answers, events and notifications
in the same order, the same state, and the same end after the same number of commands. -/
structure Transcript.SameButTime (t t' : Transcript β) : Prop where
  exchanges : List.Forall₂ Exchange.SameButTime t.exchanges t'.exchanges
  rest : Effect.told t.rest = Effect.told t'.rest
  state : t.state = t'.state
  commands : t.commands = t'.commands
  ending : t.ending = t'.ending

/-! ## One command -/

theorem Builder.invoke_elapsed (b : Builder δ) (elapsed elapsed' : Unsigned 64) (c : Call) :
    (b.invoke elapsed c).2 = (b.invoke elapsed' c).2 ∧
      ((b.invoke elapsed c).1 = (b.invoke elapsed' c).1 ∨
        ∃ r : CallResult, (b.invoke elapsed c).1 = .ok { r with elapsed := elapsed } ∧
          (b.invoke elapsed' c).1 = .ok { r with elapsed := elapsed' }) := by
  unfold Builder.invoke
  cases b.loaded with
  | none => exact ⟨rfl, .inl rfl⟩
  | some l =>
    cases c.target with
    | function =>
      cases hr : (l.driver.call c b.settings.callbacks).result with
      | error e => simp [hr]
      | ok results =>
        simp only [hr, true_and]
        exact .inr ⟨⟨c.name, results, elapsed, _⟩, rfl, rfl⟩
    | _ => exact ⟨rfl, .inl rfl⟩

theorem Effect.told_watch (s : SessionSettings) (r : CallResult) :
    told (Dispatch.watch s r) = [] := by
  unfold Dispatch.watch
  split <;> rfl

/-- **A command has the same effect however long it takes**, on the state and on what is told of. -/
theorem dispatch_sameButTime (fs : FileSystem) (elapsed elapsed' : Unsigned 64)
    (s : SessionSettings) (b : Builder δ) (c : Command) :
    (dispatch (Builder.service fs elapsed) s b c).SameButTime
      (dispatch (Builder.service fs elapsed') s b c) := by
  cases c with
  | call description =>
    simp only [dispatch, Dispatch.call, Builder.service]
    cases (decodeText description : Except CodecError Call) with
    | error e => exact .refl _
    | ok call =>
      obtain ⟨hrest, hresult⟩ := b.invoke_elapsed elapsed elapsed' call
      simp only [hrest]
      rcases hresult with hsame | ⟨r, hr, hr'⟩
      · rw [hsame]
        exact .refl _
      · rw [hr, hr']
        -- the warning about a long call may be on either side
        refine ⟨.call { r with elapsed := elapsed } elapsed', rfl, rfl, ?_⟩
        simp only [Effect.told_append, Effect.told_watch]
  | _ => exact .refl _

/-! ## Sessions -/

namespace Session

variable {service service' : Nat → ComponentService β} {settings : SessionSettings}

theorem run_sameButTime
    (h : ∀ n b c, (dispatch (service n) settings b c).SameButTime
      (dispatch (service' n) settings b c))
    (writable : Nat → Bool) (last : Option FrameError) (frames : List (List UInt8))
    (s : Session β) {pending pending' : List Effect}
    (hpending : Effect.told pending = Effect.told pending') :
    (run service settings writable last pending s frames).SameButTime
      (run service' settings writable last pending' s frames) := by
  induction frames generalizing s pending pending' with
  | nil => exact ⟨.nil, hpending, rfl, rfl, rfl⟩
  | cons frame frames ih =>
    rw [run_cons, run_cons]
    cases (decodeBytes frame : Option CommandRecord) with
    | none => exact ⟨.nil, hpending, rfl, rfl, rfl⟩
    | some record =>
      have hsame := h s.commands s.state record.command
      have heffects : Effect.told (pending ++ (dispatch (service s.commands) settings s.state
          record.command).effects) = Effect.told (pending' ++ (dispatch (service' s.commands)
            settings s.state record.command).effects) := by
        rw [Effect.told_append, Effect.told_append, hpending, hsame.effects]
      have hexchange : Exchange.SameButTime ⟨_, _⟩ ⟨_, _⟩ := ⟨hsame.response, heffects⟩
      -- both sessions go on, or neither does, and from the same state
      simp only [hsame.proceeds, hsame.state]
      split
      · exact ⟨.nil, heffects, rfl, rfl, rfl⟩
      · split
        · have hnone : Effect.told [] = Effect.told [] := rfl
          have hrest := ih ⟨(dispatch (service' s.commands) settings s.state record.command).state,
            s.commands + 1, none⟩ hnone
          exact ⟨.cons hexchange hrest.exchanges, hrest.rest, hrest.state, hrest.commands,
            hrest.ending⟩
        · exact ⟨.cons hexchange .nil, rfl, rfl, rfl, rfl⟩

/-- **A session goes the same way however long its calls take.** -/
theorem serve_sameButTime (files : Nat → FileSystem) (times times' : Nat → Unsigned 64)
    (settings : SessionSettings) (writable : Nat → Bool) (b : Builder δ) (stream : FrameStream) :
    (serve (fun n => Builder.service (files n) (times n)) settings writable b stream).SameButTime
      (serve (fun n => Builder.service (files n) (times' n)) settings writable b stream) := by
  have hopened : Effect.told [.reported (.opened settings.session)] =
      Effect.told [.reported (.opened settings.session)] := rfl
  have hrun := run_sameButTime
    (fun n b c => dispatch_sameButTime (files n) (times n) (times' n) settings b c) writable
    stream.error stream.frames (fresh b) hopened
  refine ⟨hrun.exchanges, ?_, hrun.state, hrun.commands, hrun.ending⟩
  simp only [serve, Effect.told_append, hrun.rest, hrun.commands, hrun.ending]

end Session

end TargetBench
