import TargetBench.Proofs.Driver.Calling
import TargetBench.Proofs.Loopback.Comparison
import TargetBench.Proofs.Session.Refusal

/-!
# Expected results

What it comes to that a call says which results it expects. The call of a function is carried out as
if it did not say so; its results are then compared, and all that the comparison leaves is its
verdict and a record in the log. With an exact table the verdict says whether the results are those
that were expected. An attribute that is read is not compared with anything.

## Main definitions

* `CallEffect.lines`: the lines that effects deliver to the agent
* `SameButVerdict`: the same outcome of a call, with and without expectations

## Main results

* `Driver.call_settled`: what becomes of a call, of its verification and of the read of an attribute
* `Builder.verified_isSome_iff`: which results come with a verdict
* `Session.expectations_only_compare`: what expectations change in a session
-/

namespace TargetBench

/-- The lines that effects deliver to the agent. -/
def CallEffect.lines (es : List CallEffect) : List String :=
  es.filterMap fun
    | notified line => some line
    | logged _ => none

theorem CallEffect.lines_append (es es' : List CallEffect) :
    lines (es ++ es') = lines es ++ lines es' :=
  List.filterMap_append

/-- The outcome of a call without expectations, and with them: the same error, or the same result
with a verdict, which says whether the results are those that were expected. The call may take
another time. -/
inductive SameButVerdict (expected : List Value) :
    Except CallError CallResult → Except CallError CallResult → Prop where
  | error (e : CallError) : SameButVerdict expected (.error e) (.error e)
  | ok (name : String) (results : List Value) (elapsed elapsed' : Unsigned 64) {verdict : Bool}
      (h : verdict = true ↔ expected = results) :
      SameButVerdict expected (.ok ⟨name, results, elapsed, none⟩)
        (.ok ⟨name, results, elapsed', some verdict⟩)

namespace Builder

variable {δ : Type} {b : Builder δ} {l : Loaded δ} {c : Call}

/-! ## Calls of functions -/

section

variable {outcome : Outcome δ (List Value)}

theorem invoke_of_call_error (elapsed : Unsigned 64) (hl : b.loaded = some l)
    (hc : c.target = .function) (ho : l.driver.call c b.settings.callbacks = outcome)
    {e : InvokeError} (h : outcome.result = .error e) :
    b.invoke elapsed c = (.error (.invoke e),
      { b with loaded := some (l.withState outcome.state) }, outcome.effects) := by
  simp only [invoke, hl, hc, ho, h]
  rfl

theorem invoke_of_call_ok (elapsed : Unsigned 64) (hl : b.loaded = some l)
    (hc : c.target = .function) (ho : l.driver.call c b.settings.callbacks = outcome)
    {results : List Value} (h : outcome.result = .ok results)
    {verified : Option Bool} {logged : List CallEffect}
    (hv : verification (l.withState outcome.state).driver c results = (verified, logged)) :
    b.invoke elapsed c = (.ok ⟨c.name, results, elapsed, verified⟩,
      { b with loaded := some (l.withState outcome.state) }, outcome.effects ++ logged) := by
  rw [Loaded.withState] at hv
  simp only [invoke, hl, hc, ho, h, hv]
  rfl

end

/-- The call of a function leaves the state that the driver leaves, whether or not its results are
verified. -/
theorem invoke_state_of_function (elapsed : Unsigned 64) (hl : b.loaded = some l)
    (hc : c.target = .function) :
    (b.invoke elapsed c).2.1 =
      { b with loaded := some (l.withState (l.driver.call c b.settings.callbacks).state) } := by
  cases hr : (l.driver.call c b.settings.callbacks).result with
  | error e => rw [invoke_of_call_error elapsed hl hc rfl hr]
  | ok results => rw [invoke_of_call_ok elapsed hl hc rfl hr rfl]

theorem verification_of_none (d : Driver δ) (h : c.expected = none) (results : List Value) :
    verification d c results = (none, []) := by
  rw [verification, Call.expectation, h]
  rfl

/-- Results that are compared get a verdict, and a record in the log if it is not good. -/
theorem exists_verification (d : Driver δ) {expected : List Value} (h : c.expected = some expected)
    (results : List Value) :
    ∃ verdict logged, verification d c results = (some verdict, logged) ∧
      (verdict = true ↔ d.verify ⟨c.name, expected⟩ results = .ok ()) ∧
      CallEffect.lines logged = [] := by
  rw [verification, Call.expectation, h]
  simp only [Option.map_some]
  cases d.verify ⟨c.name, expected⟩ results with
  | ok _ => exact ⟨true, _, rfl, iff_of_true rfl rfl, rfl⟩
  | error e => exact ⟨false, _, rfl, iff_of_false nofun nofun, rfl⟩

/-! ## Verdicts -/

/-- Results come with a verdict if a function was called and results were expected. -/
theorem verified_isSome_iff {elapsed : Unsigned 64} {result : CallResult}
    (h : (b.invoke elapsed c).1 = .ok result) :
    result.verified.isSome = true ↔ c.target = .function ∧ c.expected.isSome = true := by
  cases hl : b.loaded with
  | none =>
    rw [invoke, hl] at h
    cases h
  | some l =>
    cases hc : c.target with
    | function =>
      -- a call that returns is verified if results are expected, and only then
      cases hr : (l.driver.call c b.settings.callbacks).result with
      | error e =>
        rw [invoke_of_call_error elapsed hl hc rfl hr] at h
        cases h
      | ok results =>
        cases he : c.expected with
        | none =>
          rw [invoke_of_call_ok elapsed hl hc rfl hr (verification_of_none _ he results)] at h
          cases h
          exact iff_of_false Bool.false_ne_true fun hsome => Bool.false_ne_true hsome.2
        | some expected =>
          obtain ⟨verdict, logged, hverdict, -⟩ := exists_verification
            (l.withState (l.driver.call c b.settings.callbacks).state).driver he results
          rw [invoke_of_call_ok elapsed hl hc rfl hr hverdict] at h
          cases h
          exact iff_of_true rfl ⟨rfl, rfl⟩
    | _ =>
      -- an attribute that is read gets no verdict, whatever was expected
      simp only [invoke, hl, hc] at h
      cases hr : l.driver.readAttribute c.name with
      | error e =>
        rw [hr] at h
        cases h
      | ok v =>
        rw [hr] at h
        cases h
        exact iff_of_false Bool.false_ne_true fun hfunction => absurd hfunction.1 (by decide)

/-- An attribute that is read has the value that was expected of it, and gets no verdict. -/
theorem verified_isSome_iff_attribute :
    let b : Builder Loopback := ⟨⟨"specs", "default", .disconnected⟩, DriverRegistry.standard,
      some ⟨"", Loopback.key, Loopback.table.interface, ⟨Loopback.table, .closed "default"⟩⟩⟩
    let limit := Value.ofNative .uint32 (Unsigned.clamp 32 Loopback.maxPayload)
    let c := (Call.ofAttribute "max_payload").expecting [limit]
    let result : CallResult := ⟨"max_payload", [limit], Unsigned.zero 64, none⟩
    (b.invoke (Unsigned.zero 64) c).1 = .ok result ∧
      (result.verified.isSome = true ↔ c.target = .function ∧ c.expected.isSome = true) := by
  intro b limit c result
  have hread : (b.invoke (Unsigned.zero 64) c).1 = .ok result := rfl
  exact ⟨hread, verified_isSome_iff hread⟩

/-- **A verdict is all that expectations add.** A function that is called with expectations does
what it does without them; with an exact table the verdict is whether the results are as
expected. -/
theorem invoke_expecting (ht : ∀ l, b.loaded = some l → l.driver.table.Exact)
    (name : String) (args expected : List Value) (elapsed elapsed' : Unsigned 64) :
    let plain := b.invoke elapsed (.ofFunction name args)
    let compared := b.invoke elapsed' ((Call.ofFunction name args).expecting expected)
    SameButVerdict expected plain.1 compared.1 ∧ compared.2.1 = plain.2.1 ∧
      CallEffect.lines compared.2.2 = CallEffect.lines plain.2.2 := by
  intro plain compared
  cases hl : b.loaded with
  | none =>
    rw [show plain = (.error .nothingLoaded, b, []) from invoke_of_nothing hl,
      show compared = (.error .nothingLoaded, b, []) from invoke_of_nothing hl]
    exact ⟨.error .nothingLoaded, rfl, rfl⟩
  | some l =>
    -- the driver does not see what is expected, so both calls have the same outcome
    generalize ho : l.driver.call (.ofFunction name args) b.settings.callbacks = outcome
    have ho' : l.driver.call ((Call.ofFunction name args).expecting expected)
      b.settings.callbacks = outcome := ho
    cases hr : outcome.result with
    | error e =>
      rw [show plain = _ from invoke_of_call_error elapsed hl rfl ho hr,
        show compared = _ from invoke_of_call_error elapsed' hl rfl ho' hr]
      exact ⟨.error (.invoke e), rfl, rfl⟩
    | ok results =>
      obtain ⟨verdict, logged, hverdict, hverify, hsilent⟩ := exists_verification
        (c := (Call.ofFunction name args).expecting expected)
        (l.withState outcome.state).driver rfl results
      rw [show plain = _ from
          invoke_of_call_ok elapsed hl rfl ho hr (verification_of_none _ rfl results),
        show compared = _ from invoke_of_call_ok elapsed' hl rfl ho' hr hverdict]
      refine ⟨.ok name results elapsed elapsed' ?_, rfl, ?_⟩
      · exact hverify.trans (Driver.verify_eq_ok_iff (ht l hl) (ho ▸ hr) outcome.state expected)
      · rw [List.append_nil, CallEffect.lines_append, hsilent, List.append_nil]

end Builder

/-- **What becomes of a call**, whatever the table, its functions and its comparisons are. It is
refused for its name, for the number of its arguments or for the first misfit among them, in this
order, and then no function runs and nothing changes; or the function runs once, and its outcome is
that of the call as long as it returns as many results as declared. Results of another number than
expected are never verified, and neither verifying results nor reading an attribute changes the
state of what is loaded. -/
theorem Driver.call_settled {δ : Type} (d : Driver δ) (c : Call) (channel : CallbackChannel) :
    d.Settles c channel ∧
      (∀ e actual, d.verify e actual = .ok () → e.expected.length = actual.length) ∧
      ∀ (b : Builder δ) (l : Loaded δ) (elapsed : Unsigned 64),
        b.loaded = some l → l.driver = d → b.settings.callbacks = channel →
        (c.target = .attribute → (b.invoke elapsed c).2 = (b, [])) ∧
          (c.target = .function → (b.invoke elapsed c).2.1 =
            { b with loaded := some (l.withState (d.call c channel).state) }) := by
  refine ⟨d.settles c channel, fun e actual => Driver.length_eq_of_verify, ?_⟩
  rintro b l elapsed hl rfl rfl
  constructor
  · intro hattribute
    exact Builder.invoke_of_target_ne_function b elapsed (hattribute ▸ by decide)
  · intro hfunction
    exact Builder.invoke_state_of_function elapsed hl hfunction

/-- **Expectations in a session.** In every state that commands can lead to from a fresh session
with the loopback controller as its only driver, a function that is called with expectations does
what it does without them: it fails with the same error or returns the same results, leaves the same
state and delivers the same lines. If it returns, the verdict says whether the results are those
that were expected, in whichever way the function has them compared. -/
theorem Session.expectations_only_compare (ls : LoadSettings) (s : SessionSettings)
    (files : Nat → FileSystem) (times : Nat → Unsigned 64) (cs : List Command) :
    let service := fun n => Builder.service (files n) (times n)
    let b := Session.stateAfter service s 0 (Builder.fresh ls DriverRegistry.standard) cs
    ∀ name args expected elapsed elapsed',
      let plain := b.invoke elapsed (.ofFunction name args)
      let compared := b.invoke elapsed' ((Call.ofFunction name args).expecting expected)
      SameButVerdict expected plain.1 compared.1 ∧ compared.2.1 = plain.2.1 ∧
        CallEffect.lines compared.2.2 = CallEffect.lines plain.2.2 := by
  intro service b name args expected elapsed elapsed'
  have hserves : b.Serves Loopback.table := (Builder.serves_fresh_standard ls).stateAfter 0 cs
  refine Builder.invoke_expecting ?_ name args expected elapsed elapsed'
  intro l hl
  rw [hserves.loaded l hl]
  exact Loopback.exact_table

end TargetBench
