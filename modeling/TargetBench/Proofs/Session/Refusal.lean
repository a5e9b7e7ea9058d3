import TargetBench.Proofs.Driver.Calling
import TargetBench.Proofs.Loopback.Total
import TargetBench.Proofs.Session.Change

/-!
# Refusals

Which calls a session refuses, and what commands leave untouched. A call is refused for reasons
that can be read off its text, the loaded component and the table of the driver; once these are
passed, it cannot fail any more. Whatever is refused, and whatever only asks, changes nothing and
notifies nobody.

## Main definitions

* `Refused`: why a call is refused
* `Answer.Quiet`: answers that change nothing and notify nobody
* `Inert`: commands with answers that refuse or only tell

## Main results

* `dispatch_call_code_eq_fail_iff`: the calls that are answered with failure
* `dispatch_quiet`: what is refused, and what only tells, changes nothing
* `Session.refusals_exact_and_quiet`: both in all states that a session can reach
-/

namespace TargetBench

/-! ## Calls of a builder -/

namespace Builder

variable {δ : Type} {b : Builder δ} {elapsed : Unsigned 64} {c : Call} {l : Loaded δ}

theorem invoke_of_nothing (h : b.loaded = none) :
    b.invoke elapsed c = (.error .nothingLoaded, b, []) := by
  simp only [invoke, h]

/-- A call that the table turns down fails and changes nothing. -/
theorem invoke_of_rejects (hl : b.loaded = some l) (h : l.driver.table.Rejects c) :
    ∃ e, b.invoke elapsed c = (.error e, b, []) := by
  cases ht : c.target with
  | function =>
    obtain ⟨e, he⟩ := Driver.call_of_rejects b.settings.callbacks ht h
    refine ⟨.invoke e, ?_⟩
    simp only [invoke, hl, ht, he]
    rw [← hl]
  | _ =>
    obtain ⟨e, he⟩ := (Driver.readAttribute_eq_error_iff ht).mpr h
    exact ⟨.invoke e, by simp only [invoke, hl, ht, he]⟩

/-- A total table answers a call that it does not turn down. -/
theorem invoke_of_not_rejects (elapsed : Unsigned 64) (hl : b.loaded = some l)
    (htotal : l.driver.table.Total) (h : ¬ l.driver.table.Rejects c) :
    ∃ result, (b.invoke elapsed c).1 = .ok result := by
  cases ht : c.target with
  | function =>
    obtain ⟨results, hresults⟩ :=
      Driver.call_of_not_rejects htotal b.settings.callbacks ht h
    simp only [invoke, hl, ht, hresults]
    exact ⟨_, rfl⟩
  | _ =>
    cases hr : l.driver.readAttribute c.name with
    | error e => exact absurd ((Driver.readAttribute_eq_error_iff ht).mp ⟨e, hr⟩) h
    | ok v => exact ⟨⟨c.name, [v], Unsigned.zero 64, none⟩, by simp only [invoke, hl, ht, hr]⟩

/-- Reading an attribute changes nothing. -/
theorem invoke_of_target_ne_function (b : Builder δ) (elapsed : Unsigned 64)
    (h : c.target ≠ .function) : (b.invoke elapsed c).2 = (b, []) := by
  rw [invoke]
  cases hl : b.loaded with
  | none => rfl
  | some l =>
    cases ht : c.target with
    | function => exact absurd ht h
    | _ => cases hr : l.driver.readAttribute c.name <;> simp only [hr]

end Builder

/-! ## Answers to calls -/

/-- An answer that changes nothing and notifies nobody. -/
def Answer.Quiet {β : Type} (a : Answer β) (b : β) : Prop :=
  a.state = b ∧ ∀ line, Effect.notified line ∉ a.effects

/-- An answer that keeps the state and leaves a record changes nothing and notifies nobody. -/
theorem Answer.quiet_of_logged {β : Type} (response : Response) (proceeds : Bool) (b : β)
    (record : LogRecord) : (Answer.mk response proceeds b [.logged record]).Quiet b := by
  refine ⟨rfl, fun line h => ?_⟩
  cases List.mem_singleton.mp h

variable {δ : Type} {fs : FileSystem} {elapsed : Unsigned 64} {s : SessionSettings} {b : Builder δ}

theorem dispatch_call_of_malformed {description : String} {e : CodecError}
    (hc : decodeText description = (.error e : Except CodecError Call)) :
    dispatch (Builder.service fs elapsed) s b (.call description) =
      ⟨.failure, true, b, [.logged (Dispatch.failureRecord s (.malformedCall e))]⟩ := by
  simp only [dispatch, Dispatch.call, hc]

theorem dispatch_call_of_error {description : String} {c : Call}
    (hc : decodeText description = (.ok c : Except CodecError Call)) {e : CallError}
    (h : b.invoke elapsed c = (.error e, b, [])) :
    dispatch (Builder.service fs elapsed) s b (.call description) =
      ⟨.failure, true, b, [.logged (Dispatch.failureRecord s (.call e))]⟩ := by
  simp only [dispatch, Dispatch.call, hc, Builder.service, h, List.map_nil, List.nil_append]

theorem dispatch_call_of_ok {description : String} {c : Call}
    (hc : decodeText description = (.ok c : Except CodecError Call)) {result : CallResult}
    (h : (b.invoke elapsed c).1 = .ok result) :
    (dispatch (Builder.service fs elapsed) s b (.call description)).response =
      .ofMessage (encodeText result) := by
  simp only [dispatch, Dispatch.call, hc, Builder.service, h]

/-- Why a call is refused: its text describes no call, nothing is loaded, or the table turns the
call down. -/
inductive Refused (b : Builder δ) (t : FunctionTable δ) (description : String) : Prop where
  | malformed {e : CodecError} : decodeText description = (.error e : Except CodecError Call) →
      Refused b t description
  | nothingLoaded : b.loaded = none → Refused b t description
  | rejected {c : Call} : decodeText description = (.ok c : Except CodecError Call) →
      t.Rejects c → Refused b t description

variable {t : FunctionTable δ} {description : String}

/-- A call that is refused is answered with failure and leaves a record of the error, nothing
else. -/
theorem dispatch_call_of_refused (hserves : b.Serves t) (h : Refused b t description) :
    ∃ e, dispatch (Builder.service fs elapsed) s b (.call description) =
      ⟨.failure, true, b, [.logged (Dispatch.failureRecord s e)]⟩ := by
  rcases h with hmalformed | hnothing | ⟨hc, hrejects⟩
  · exact ⟨_, dispatch_call_of_malformed hmalformed⟩
  · cases hc : (decodeText description : Except CodecError Call) with
    | error e => exact ⟨_, dispatch_call_of_malformed hc⟩
    | ok c => exact ⟨_, dispatch_call_of_error hc (Builder.invoke_of_nothing hnothing)⟩
  · cases hl : b.loaded with
    | none => exact ⟨_, dispatch_call_of_error hc (Builder.invoke_of_nothing hl)⟩
    | some l =>
      obtain ⟨e, he⟩ := Builder.invoke_of_rejects hl (hserves.loaded l hl ▸ hrejects)
      exact ⟨_, dispatch_call_of_error hc he⟩

/-- A call that is not refused is answered with its result. -/
theorem dispatch_call_of_not_refused (hserves : b.Serves t) (htotal : t.Total)
    (h : ¬ Refused b t description) :
    ∃ result : CallResult,
      (dispatch (Builder.service fs elapsed) s b (.call description)).response =
        .ofMessage (encodeText result) := by
  cases hc : (decodeText description : Except CodecError Call) with
  | error e => exact absurd (.malformed hc) h
  | ok c =>
    cases hl : b.loaded with
    | none => exact absurd (.nothingLoaded hl) h
    | some l =>
      have htable := hserves.loaded l hl
      have hrejects : ¬ l.driver.table.Rejects c := fun hr => h (.rejected hc (htable ▸ hr))
      obtain ⟨result, hresult⟩ :=
        Builder.invoke_of_not_rejects elapsed hl (htable ▸ htotal) hrejects
      exact ⟨result, dispatch_call_of_ok hc hresult⟩

/-- With a total table, the calls that are answered with failure are those that are refused. -/
theorem dispatch_call_code_eq_fail_iff (hserves : b.Serves t) (htotal : t.Total) :
    (dispatch (Builder.service fs elapsed) s b (.call description)).response.code = .fail ↔
      Refused b t description := by
  constructor
  · intro hfail
    by_contra h
    obtain ⟨result, hresult⟩ := dispatch_call_of_not_refused hserves htotal h
    rw [hresult] at hfail
    cases hfail
  · intro h
    obtain ⟨e, he⟩ := dispatch_call_of_refused hserves h
    rw [he]
    rfl

/-! ## Answers that change nothing -/

/-- A load is never answered with failure. -/
theorem dispatch_load_code (r : LoadRequest) :
    (dispatch (Builder.service fs elapsed) s b (.load r)).response.code = .success := by
  cases h : (b.load fs r).1 with
  | ok _ => rw [(dispatch_load_of_ok h).1, Response.ofValue]
  | error e => rw [(dispatch_load_of_error h).1, Response.ofValue]

/-- A call is never answered with an integer. -/
theorem dispatch_call_value (description : String) :
    (dispatch (Builder.service fs elapsed) s b (.call description)).response.value = none := by
  cases hc : (decodeText description : Except CodecError Call) with
  | error e => simp only [dispatch, Dispatch.call, hc, Response.failure]
  | ok c =>
    simp only [dispatch, Dispatch.call, hc]
    cases ((Builder.service fs elapsed).invoke b c).1 <;> rfl

/-- Loading notifies nobody. -/
theorem notified_not_mem_load (r : LoadRequest) (line : String) :
    Effect.notified line ∉ (dispatch (Builder.service fs elapsed) s b (.load r)).effects := by
  simp only [dispatch, Dispatch.load, Builder.service]
  cases (b.load fs r).1 <;> simp [Effect.ofCall]

/-- A load that is answered with minus one changes nothing. -/
theorem dispatch_load_quiet {r : LoadRequest}
    (h : (dispatch (Builder.service fs elapsed) s b (.load r)).response.value ≠
      some (Signed.zero 32)) :
    (dispatch (Builder.service fs elapsed) s b (.load r)).Quiet b := by
  refine ⟨?_, notified_not_mem_load r⟩
  rcases b.load_cases fs r with ⟨e, he⟩ | ⟨k, i, hf, hk | ⟨hk, d, ho⟩⟩
  · exact (dispatch_load_of_firstFailure he).2.1
  · exact (dispatch_load_of_keeps hf hk).2
  · rw [(dispatch_load_of_opens hf hk ho).1] at h
    exact absurd rfl h

/-- A warning about a slow call notifies nobody. -/
theorem notified_not_mem_watch (s : SessionSettings) (result : CallResult) (line : String) :
    Effect.notified line ∉ Dispatch.watch s result := by
  rw [Dispatch.watch]
  split <;> simp

/-- Reading an attribute changes nothing. -/
theorem dispatch_attribute_quiet {c : Call}
    (hc : decodeText description = (.ok c : Except CodecError Call)) (ht : c.target ≠ .function) :
    (dispatch (Builder.service fs elapsed) s b (.call description)).Quiet b := by
  obtain ⟨hstate, heffects⟩ := Prod.mk.inj (Builder.invoke_of_target_ne_function b elapsed ht)
  refine ⟨(dispatch_call_state b hc).trans hstate, fun line => ?_⟩
  simp only [dispatch, Dispatch.call, hc, Builder.service, heffects]
  cases (b.invoke elapsed c).1 with
  | error e => simp
  | ok result => simpa using notified_not_mem_watch s result line

/-- Describing the interface changes nothing. -/
theorem dispatch_list_quiet : (dispatch (Builder.service fs elapsed) s b .list).Quiet b := by
  rw [dispatch, Dispatch.list]
  cases (Builder.service fs elapsed).specification? b <;> simp [Answer.Quiet]

/-- Commands with answers that refuse or only tell: failure, minus one, and what is answered about
the interface, the status or an attribute. -/
inductive Inert {β : Type} (c : Command) (a : Answer β) : Prop where
  | failure : a.response.code = .fail → Inert c a
  | minusOne : a.response.value = some ⟨-1, by decide, by decide⟩ → Inert c a
  | list : c = .list → Inert c a
  | status {kind : Signed 32} : c = .status kind → Inert c a
  | readAttribute {description : String} {call : Call} : c = .call description →
      decodeText description = (.ok call : Except CodecError Call) → call.target = .attribute →
      Inert c a

/-- A command whose answer refuses or only tells changes nothing. -/
theorem dispatch_quiet (hserves : b.Serves t) (htotal : t.Total) {c : Command}
    (h : Inert c (dispatch (Builder.service fs elapsed) s b c)) :
    (dispatch (Builder.service fs elapsed) s b c).Quiet b := by
  cases c with
  | exit => exact ⟨rfl, fun line => List.not_mem_nil⟩
  | status kind => exact ⟨rfl, fun line => List.not_mem_nil⟩
  | list => exact dispatch_list_quiet
  | load r =>
    rcases h with hfail | hminus | ⟨⟨⟩⟩ | ⟨⟨⟩⟩ | ⟨⟨⟩, -, -⟩
    · rw [dispatch_load_code] at hfail
      cases hfail
    · exact dispatch_load_quiet (hminus ▸ by decide)
  | call description =>
    rcases h with hfail | hminus | ⟨⟨⟩⟩ | ⟨⟨⟩⟩ | ⟨⟨⟩, hc, ht⟩
    · rw [dispatch_call_code_eq_fail_iff hserves htotal] at hfail
      obtain ⟨e, he⟩ := dispatch_call_of_refused hserves hfail
      rw [he]
      exact Answer.quiet_of_logged .failure true b _
    · rw [dispatch_call_value] at hminus
      cases hminus
    · exact dispatch_attribute_quiet hc (ht ▸ by decide)

/-- **What is refused, and what leaves everything as it is.** In every state that commands can lead
to from a fresh session, calls are refused exactly for the reasons that can be read off their text,
the loaded component and the controller's table. An answer of failure or minus one, and every answer
about the status, the interface or an attribute, leaves what is loaded as it was, the state of the
driver included, and notifies nobody. -/
theorem Session.refusals_exact_and_quiet (ls : LoadSettings) (s : SessionSettings)
    (files : Nat → FileSystem) (times : Nat → Unsigned 64) (cs : List Command) :
    let service := fun n => Builder.service (files n) (times n)
    let b := Session.stateAfter service s 0 (Builder.fresh ls DriverRegistry.standard) cs
    (∀ description,
      (dispatch (service cs.length) s b (.call description)).response.code = .fail ↔
        Refused b Loopback.table description) ∧
      ∀ c, Inert c (dispatch (service cs.length) s b c) →
        (dispatch (service cs.length) s b c).Quiet b := by
  intro service b
  have hserves : b.Serves Loopback.table := (Builder.serves_fresh_standard ls).stateAfter 0 cs
  have hservice : service cs.length = Builder.service (files cs.length) (times cs.length) := rfl
  rw [hservice]
  -- from here on, only the table of the drivers counts
  clear_value b
  constructor
  · intro description
    exact dispatch_call_code_eq_fail_iff hserves Loopback.total_table
  · intro c h
    exact dispatch_quiet hserves Loopback.total_table h

end TargetBench
