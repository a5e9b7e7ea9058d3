import Mathlib.Data.List.Forall2
import TargetBench.Proofs.Session.Order
import TargetBench.Proofs.Specification.Loading

/-!
# What is reported about a session

The reports about a session are its opening, one for each load request that was carried out, in the
order of the requests, and its closing. A report on a load request agrees with the answer that the
agent got for it.

## Main definitions

* `Transcript.events`: all reports about a session
* `loads`: the load requests among commands, with their places
* `Session.Told`: a report on the load request at a place
* `Session.Reported`: the reports that belong to a session

## Main results

* `dispatch_load_cases`, `events_dispatch_eq_nil`: what one command reports
* `Session.serve_eq`: the opening and the closing stand around everything else
* `Session.events_of_serve`: all reports about a session
-/

namespace TargetBench

variable {β : Type}

/-! ## Reports of one command -/

/-- The request of a command that loads. -/
def Command.loadRequest? : Command → Option LoadRequest
  | load r => some r
  | _ => none

/-- The reports among effects. -/
def Effect.events (es : List Effect) : List SessionEvent := es.filterMap Effect.event?

theorem Effect.events_append (es fs : List Effect) :
    events (es ++ fs) = events es ++ events fs := List.filterMap_append

/-- What a driver does is never a report. -/
theorem Effect.events_ofCall (es : List CallEffect) : events (es.map Effect.ofCall) = [] := by
  rw [events, List.filterMap_map, List.filterMap_eq_nil_iff]
  intro e _
  cases e <;> rfl

theorem Effect.events_watch (s : SessionSettings) (r : CallResult) :
    events (Dispatch.watch s r) = [] := by
  unfold Dispatch.watch
  split <;> rfl

/-- A load request is reported as its outcome says, and answered so. -/
theorem dispatch_load_cases (service : ComponentService β) (s : SessionSettings) (b : β)
    (r : LoadRequest) :
    let a := dispatch service s b (.load r)
    (service.load b r).1 = .ok () ∧ a.response = .ofValue (Signed.zero 32) ∧
        Effect.events a.effects = [.componentLoaded s.session r] ∨
      ∃ e, (service.load b r).1 = .error e ∧ a.response = .ofValue ⟨-1, by decide, by decide⟩ ∧
        Effect.events a.effects = [.componentFailed s.session r e] := by
  intro a
  rcases h : service.load b r with ⟨e | _, b', effects⟩
  · right
    refine ⟨e, rfl, ?_, ?_⟩
    · simp only [a, dispatch, Dispatch.load, h]
    · simp only [a, dispatch, Dispatch.load, h, Effect.events_append, Effect.events_ofCall]
      rfl
  · left
    refine ⟨rfl, ?_, ?_⟩
    · simp only [a, dispatch, Dispatch.load, h]
    · simp only [a, dispatch, Dispatch.load, h, Effect.events_append, Effect.events_ofCall]
      rfl

/-- No other command is reported. -/
theorem events_dispatch_eq_nil (service : ComponentService β) (s : SessionSettings) (b : β)
    {c : Command} (hc : c.loadRequest? = none) :
    Effect.events (dispatch service s b c).effects = [] := by
  cases c with
  | load r => cases hc
  | exit => rfl
  | status kind => rfl
  | list =>
    rw [dispatch, Dispatch.list]
    cases service.specification? b <;> rfl
  | call description =>
    rw [dispatch, Dispatch.call]
    cases (decodeText description : Except CodecError Call) with
    | error e => rfl
    | ok call =>
      rcases h : service.invoke b call with ⟨e | result, b', effects⟩
      · simp only [h, Effect.events_append, Effect.events_ofCall]
        rfl
      · simp only [h, Effect.events_append, Effect.events_ofCall, Effect.events_watch,
          List.append_nil]

/-! ## Reports of many commands -/

/-- The load requests among commands, each with the place of its command, in order. -/
def loads (cs : List Command) : List (Nat × LoadRequest) :=
  cs.zipIdx.filterMap fun (c, k) => c.loadRequest?.map fun r => (k, r)

/-- A list that has one element for each element of another one that counts, and nothing for the
others, goes along with these. -/
theorem forall₂_filterMap_flatMap {α γ ε : Type} {R : γ → ε → Prop} {f : α → Option γ}
    {g : α → List ε} {l : List α} (hsome : ∀ x ∈ l, ∀ y, f x = some y → ∃ e, g x = [e] ∧ R y e)
    (hnone : ∀ x ∈ l, f x = none → g x = []) : List.Forall₂ R (l.filterMap f) (l.flatMap g) := by
  induction l with
  | nil => exact .nil
  | cons x l ih =>
    have hrest := ih (fun y hy => hsome y (List.mem_cons_of_mem x hy))
      fun y hy => hnone y (List.mem_cons_of_mem x hy)
    rw [List.flatMap_cons]
    cases hx : f x with
    | none =>
      rw [List.filterMap_cons_none hx, hnone x List.mem_cons_self hx]
      exact hrest
    | some y =>
      obtain ⟨e, he, hR⟩ := hsome x List.mem_cons_self y hx
      rw [List.filterMap_cons_some hx, he]
      exact .cons hR hrest

namespace Session

variable {service : Nat → ComponentService β} {settings : SessionSettings}

/-- Each command is answered on the state that the commands before its place left. -/
theorem answers_eq_map (b : β) (cs : List Command) :
    answers service settings 0 b cs = cs.zipIdx.map fun (c, k) =>
      dispatch (service k) settings (stateAfter service settings 0 b (cs.take k)) c := by
  apply List.ext_getElem?
  intro k
  rw [getElem?_answers, List.getElem?_map, List.getElem?_zipIdx, Option.map_map, Nat.zero_add]
  rfl

end Session

/-- All effects of a session, in order. -/
def Transcript.effects (t : Transcript β) : List Effect :=
  t.exchanges.flatMap Exchange.effects ++ t.rest

/-- All reports about a session, in order. -/
def Transcript.events (t : Transcript β) : List SessionEvent := Effect.events t.effects

/-- A transcript after effects that no answer has followed yet: the first answer follows them. -/
def Transcript.after (pending : List Effect) (t : Transcript β) : Transcript β :=
  match t.exchanges with
  | [] => { t with rest := pending ++ t.rest }
  | x :: xs => { t with exchanges := ⟨x.response, pending ++ x.effects⟩ :: xs }

namespace Transcript

@[simp] theorem effects_after (pending : List Effect) (t : Transcript β) :
    (t.after pending).effects = pending ++ t.effects := by
  unfold after effects
  cases t.exchanges <;> simp

@[simp] theorem responses_after (pending : List Effect) (t : Transcript β) :
    (t.after pending).exchanges.map Exchange.response = t.exchanges.map Exchange.response := by
  unfold after
  cases t.exchanges <;> simp

@[simp] theorem commands_after (pending : List Effect) (t : Transcript β) :
    (t.after pending).commands = t.commands := by
  unfold after
  cases t.exchanges <;> rfl

@[simp] theorem ending_after (pending : List Effect) (t : Transcript β) :
    (t.after pending).ending = t.ending := by
  unfold after
  cases t.exchanges <;> rfl

end Transcript

namespace Session

/-! ## A whole session -/

/-- Effects that no answer has followed yet go in front and change nothing else. -/
theorem run_pending (service : Nat → ComponentService β) (settings : SessionSettings)
    (writable : Nat → Bool) (last : Option FrameError) (pending : List Effect) (s : Session β)
    (frames : List (List UInt8)) :
    run service settings writable last pending s frames =
      (run service settings writable last [] s frames).after pending := by
  cases frames with
  | nil => simp [run, Transcript.after]
  | cons frame frames =>
    rw [run_cons, run_cons]
    cases (decodeBytes frame : Option CommandRecord) with
    | none => simp [Transcript.after]
    | some record =>
      -- the first command is answered or not, and after its answer nothing is pending
      simp only []
      split
      · simp [Transcript.after]
      · split <;> simp [Transcript.after, Transcript.behind]

/-- The opening and the closing of a session stand around everything else. -/
theorem serve_eq (service : Nat → ComponentService β) (settings : SessionSettings)
    (writable : Nat → Bool) (b : β) (stream : FrameStream) :
    let t := run service settings writable stream.error [] (fresh b) stream.frames
    let t' := serve service settings writable b stream
    t'.events =
        .opened settings.session :: (t.events ++ [.closed settings.session t.commands t.ending]) ∧
      t'.exchanges.map Exchange.response = t.exchanges.map Exchange.response ∧
      t'.commands = t.commands ∧ t'.ending = t.ending := by
  intro t t'
  have ht : t' = { t.after [.reported (.opened settings.session)] with
      rest := (t.after [.reported (.opened settings.session)]).rest ++
        [.reported (.closed settings.session t.commands t.ending)] } := by
    simp only [t', serve, run_pending service settings writable stream.error
      [.reported (.opened settings.session)] (fresh b) stream.frames]
    simp only [← show t = run service settings writable stream.error [] (fresh b) stream.frames
      from rfl, Transcript.commands_after, Transcript.ending_after]
  have heffects : t'.effects = .reported (.opened settings.session) ::
      (t.effects ++ [.reported (.closed settings.session t.commands t.ending)]) := calc
    t'.effects = (t.after [.reported (.opened settings.session)]).effects ++
        [.reported (.closed settings.session t.commands t.ending)] := by
      rw [ht]
      simp only [Transcript.effects, List.append_assoc]
    _ = _ := by simp
  refine ⟨?_, ?_, ?_, ?_⟩
  · rw [Transcript.events, heffects, Effect.events, List.filterMap_cons, ← Effect.events,
      Effect.events_append]
    rfl
  · rw [ht]
    exact Transcript.responses_after _ t
  · rw [ht]
    exact Transcript.commands_after _ t
  · rw [ht]
    exact Transcript.ending_after _ t

/-- A report on the load request at a place: it tells of a success if the request succeeded and was
answered with zero, and of the error that stopped it if the request failed and was answered with
minus one. The commands `cs` are those of the session `t` that began with `b`. -/
inductive Told (service : Nat → ComponentService β) (settings : SessionSettings) (b : β)
    (cs : List Command) (t : Transcript β) : Nat × LoadRequest → SessionEvent → Prop where
  | loaded {k : Nat} {r : LoadRequest}
      (ho : ((service k).load (stateAfter service settings 0 b (cs.take k)) r).1 = .ok ())
      (ha : (t.exchanges.map Exchange.response)[k]? = some (.ofValue (Signed.zero 32))) :
      Told service settings b cs t (k, r) (.componentLoaded settings.session r)
  | failed {k : Nat} {r : LoadRequest} {e : LoadError}
      (ho : ((service k).load (stateAfter service settings 0 b (cs.take k)) r).1 = .error e)
      (ha : (t.exchanges.map Exchange.response)[k]? =
        some (.ofValue ⟨-1, by decide, by decide⟩)) :
      Told service settings b cs t (k, r) (.componentFailed settings.session r e)

/-- **The reports that belong to a session**: the commands `cs` of its first frames were carried
out, and each was answered; the opening comes first and the closing last, with the number of the
commands and the reason of the end; between them there is exactly one report for each load request,
in order. -/
structure Reported (service : Nat → ComponentService β) (settings : SessionSettings) (b : β)
    (stream : FrameStream) (t : Transcript β) (cs : List Command) (between : List SessionEvent) :
    Prop where
  commands_of_frames : (stream.frames.take cs.length).map Command.ofFrame? = cs.map some
  stops : Stops stream.error stream.frames cs t.ending
  commands : t.commands = cs.length
  answered : t.exchanges.length = cs.length
  events : t.events =
    .opened settings.session :: (between ++ [.closed settings.session t.commands t.ending])
  between : List.Forall₂ (Told service settings b cs t) (loads cs) between

/-- The commands in front are carried out in order, whatever stops them. -/
theorem exists_inOrder (service : Nat → ComponentService β) (settings : SessionSettings)
    (last : Option FrameError) (b : β) (frames : List (List UInt8)) :
    ∃ cs, InOrder service settings last b frames cs
      (run service settings (fun _ => true) last [] (fresh b) frames) := by
  obtain ⟨front, rest, cs, rfl, hf, hc, hrest⟩ := exists_front frames
  cases rest with
  | nil =>
    rw [List.append_nil]
    exact ⟨cs, inOrder_of_ended service settings last hf hc b⟩
  | cons frame more =>
    rcases hrest frame rfl with hn | he
    · exact ⟨cs, inOrder_of_malformed service settings last hf hc hn more b⟩
    · exact ⟨cs ++ [.exit], inOrder_of_exit service settings last hf hc he more b⟩

section InOrder

variable {last : Option FrameError} {b : β} {frames : List (List UInt8)} {cs : List Command}
  {t : Transcript β}

/-- What is reported while commands are carried out is reported by these. -/
theorem InOrder.events_eq (h : InOrder service settings last b frames cs t) :
    t.events = cs.zipIdx.flatMap fun (c, k) =>
      Effect.events (dispatch (service k) settings
        (stateAfter service settings 0 b (cs.take k)) c).effects := by
  rw [Transcript.events, Transcript.effects, h.exchanges, h.rest, answers_eq_map, List.append_nil,
    Effect.events, List.filterMap_flatMap]
  simp only [List.flatMap_map]
  rfl

theorem InOrder.response_eq (h : InOrder service settings last b frames cs t) {c : Command}
    {k : Nat} (hk : (c, k) ∈ cs.zipIdx) :
    (t.exchanges.map Exchange.response)[k]? = some
      (dispatch (service k) settings (stateAfter service settings 0 b (cs.take k)) c).response := by
  have hc : cs[k]? = some c := List.mk_mem_zipIdx_iff_getElem?.mp hk
  rw [h.exchanges, List.map_map, List.getElem?_map, getElem?_answers, hc, Nat.zero_add]
  rfl

/-- Each load request that is carried out is reported once, in order, and as it is answered. -/
theorem InOrder.told (h : InOrder service settings last b frames cs t) {t' : Transcript β}
    (hresponses : t'.exchanges.map Exchange.response = t.exchanges.map Exchange.response) :
    List.Forall₂ (Told service settings b cs t') (loads cs) t.events := by
  -- both sides go through the commands by their places
  rw [h.events_eq]
  apply forall₂_filterMap_flatMap
  · rintro ⟨c, k⟩ hk ⟨k', r⟩ hload
    obtain ⟨r', hc, heq⟩ := Option.map_eq_some_iff.mp hload
    cases heq
    obtain rfl : c = .load r := by
      cases c <;> cases hc
      rfl
    have ha : (t'.exchanges.map Exchange.response)[k]? = some _ :=
      hresponses ▸ h.response_eq hk
    rcases dispatch_load_cases (service k) settings
      (stateAfter service settings 0 b (cs.take k)) r with ⟨ho, hzero, he⟩ | ⟨e, ho, hminus, he⟩
    · exact ⟨_, he, .loaded ho (ha.trans (congrArg some hzero))⟩
    · exact ⟨_, he, .failed ho (ha.trans (congrArg some hminus))⟩
  · rintro ⟨c, k⟩ - hload
    exact events_dispatch_eq_nil _ _ _ (Option.map_eq_none_iff.mp hload)

end InOrder

/-- **All reports about a session.** Whatever arrives on a connection that takes every line, and
whatever stops the session: its opening is reported first, its closing last, and between them each
load request that was carried out is reported once, in order, and as it was answered. -/
theorem events_of_serve (service : Nat → ComponentService β) (settings : SessionSettings) (b : β)
    (stream : FrameStream) :
    ∃ cs between, Reported service settings b stream
      (serve service settings (fun _ => true) b stream) cs between := by
  obtain ⟨cs, h⟩ := exists_inOrder service settings stream.error b stream.frames
  obtain ⟨hevents, hresponses, hcommands, hending⟩ :=
    serve_eq service settings (fun _ => true) b stream
  set t := run service settings (fun _ => true) stream.error [] (fresh b) stream.frames
  set t' := serve service settings (fun _ => true) b stream
  have hlength : t.exchanges.length = cs.length := by
    rw [h.exchanges, List.length_map, length_answers]
  have hlength' : t'.exchanges.length = t.exchanges.length := by
    simpa using congrArg List.length hresponses
  refine ⟨cs, t.events, h.commands_of_frames, hending ▸ h.stops, ?_, hlength'.trans hlength, ?_,
    h.told hresponses⟩
  · rw [hcommands, h.commands, hlength]
  · rw [hevents, hcommands, hending]

end Session

end TargetBench
