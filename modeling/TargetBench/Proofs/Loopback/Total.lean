import TargetBench.Loopback.Controller
import TargetBench.Proofs.Driver.Acceptance
import TargetBench.Proofs.Driver.Conformance

/-!
# The loopback controller answers what fits

Arguments that fit a declaration can be read as what the function reads them as, so no function of
the controller fails on arguments that have passed the check.

## Main results

* `Loopback.total_table`: the table of the controller is total
* `Loopback.reads_what_passes`: declared types and typed access draw the same line, so what passes
  the check of the table can be read by its functions
-/

namespace TargetBench

/-- What is declared at a position and fits is there and acceptable. -/
theorem Signature.Fits.admits {s : Signature} {args : List Value} (h : s.Fits args) (i : Nat)
    {d : Descriptor} (hd : s.args[i]? = some d) : ∃ v, args[i]? = some v ∧ d.admits v = true := by
  have hi : i < args.length := h.1 ▸ (List.getElem?_eq_some_iff.mp hd).1
  exact ⟨args[i], List.getElem?_eq_getElem hi, h.2 i d _ hd (List.getElem?_eq_getElem hi)⟩

namespace Loopback

/-- Reporting an event gives a status. -/
theorem result_reportIfOpen (e : NfcEvent) (s : Loopback) (channel : CallbackChannel) :
    ∃ status, (reportIfOpen e s channel).result = answer status := by
  rw [reportIfOpen]
  split
  · exact ⟨.ok, rfl⟩
  · exact ⟨.failed, rfl⟩

/-- A function that gives a status for arguments that fit answers a declaration with a status. -/
theorem answeredBy_of_status {name : String} {types : List Descriptor} {handler : Handler Loopback}
    (h : ∀ args, (statusFunction name types).Fits args → ∀ s channel, ∃ status,
      (handler s ⟨args⟩ channel).result = answer status) :
    (statusFunction name types).AnsweredBy handler := by
  intro args hfits s channel
  obtain ⟨status, hstatus⟩ := h args hfits s channel
  exact ⟨[.ofMember status], hstatus, rfl⟩

theorem answeredBy_openFor :
    (statusFunction "open" [.callback clientInterface]).AnsweredBy openFor := by
  apply answeredBy_of_status
  intro args hfits s channel
  obtain ⟨v, hv, hadmits⟩ := hfits.admits 0 rfl
  obtain ⟨client, hclient⟩ := ((Arguments.judged hv).callback clientInterface).mp hadmits
  rw [openFor, hclient]
  exact ⟨.ok, rfl⟩

theorem answeredBy_write : Signature.AnsweredBy ⟨"write", [bytes], [.scalar .uint32]⟩ write := by
  intro args hfits s channel
  obtain ⟨v, hv, hadmits⟩ := hfits.admits 0 rfl
  obtain ⟨data, hdata⟩ := ((Arguments.judged hv).vector .uint8).mp hadmits
  rw [write, hdata]
  -- how many bytes are accepted decides what is recorded, not how many results there are
  generalize haccepted :
    (if s.isOpen && decide (data.length ≤ maxPayload) then data.length else 0) = accepted
  refine ⟨[.ofNative .uint32 (Unsigned.clamp 32 accepted)], ?_, rfl⟩
  simp only [haccepted]
  split <;> rfl

theorem answeredBy_coreInitialized :
    (statusFunction "coreInitialized" [bytes]).AnsweredBy coreInitialized := by
  apply answeredBy_of_status
  intro args hfits s channel
  obtain ⟨v, hv, hadmits⟩ := hfits.admits 0 rfl
  obtain ⟨data, hdata⟩ := ((Arguments.judged hv).vector .uint8).mp hadmits
  rw [coreInitialized, hdata]
  exact result_reportIfOpen .postInitComplete s channel

theorem answeredBy_prediscover : (statusFunction "prediscover" []).AnsweredBy prediscover :=
  answeredBy_of_status fun _ _ s channel => result_reportIfOpen .preDiscoverComplete s channel

theorem answeredBy_close : (statusFunction "close" []).AnsweredBy close := by
  apply answeredBy_of_status
  intro args _ s channel
  rw [close]
  split
  · exact ⟨.ok, rfl⟩
  · exact ⟨.failed, rfl⟩

theorem answeredBy_controlGranted :
    (statusFunction "controlGranted" []).AnsweredBy controlGranted :=
  answeredBy_of_status fun _ _ s _ => ⟨if s.isOpen then .ok else .failed, rfl⟩

theorem answeredBy_powerCycle : (statusFunction "powerCycle" []).AnsweredBy powerCycle :=
  answeredBy_of_status fun _ _ s channel => result_reportIfOpen .openComplete s channel

/-- The functions of the controller answer all arguments that fit. -/
theorem total_table : table.Total :=
  FunctionTable.total_empty identity
    |>.addFunction answeredBy_openFor compareStatus
    |>.addFunction answeredBy_write none
    |>.addFunction answeredBy_coreInitialized compareStatus
    |>.addFunction answeredBy_prediscover compareStatus
    |>.addFunction answeredBy_close compareStatus
    |>.addFunction answeredBy_controlGranted compareStatus
    |>.addFunction answeredBy_powerCycle compareStatus
    |>.addAttribute _ _

/-- Arguments are judged alike by the declared types and by those who read them, so no function of
the controller fails to read arguments that have passed the check. -/
theorem reads_what_passes :
    (∀ (a : Arguments) (index : Nat) (v : Value), a.values[index]? = some v → a.Judged index v) ∧
      ∀ entry ∈ table.functions, ∀ args, entry.signature.check args = .ok () →
        ∀ s channel function source,
          (entry.handler s ⟨args⟩ channel).result ≠ .error (.arguments function source) := by
  constructor
  · intro a index v hv
    exact Arguments.judged hv
  · intro entry hentry args hcheck s channel function source hfails
    have hfits := Signature.check_eq_ok_iff.mp hcheck
    obtain ⟨results, hresults, -⟩ := total_table entry hentry args hfits s channel
    rw [hresults] at hfails
    cases hfails

end Loopback

end TargetBench
