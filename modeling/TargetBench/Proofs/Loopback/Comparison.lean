import TargetBench.Loopback.Controller
import TargetBench.Proofs.Driver.Difference

/-!
# The loopback controller's results are told apart

Every function of the controller but one answers with a status, and is compared as a status; writing
answers with a number of bytes, and is compared by value. Both comparisons are exact on these
results. The members of its two enumerated types are told apart by their discriminants, so results
compare alike as members and by value.

## Main results

* `Loopback.exact_table`: the table of the controller is exact
* `Loopback.results_compare_alike`: how comparison as members is related to comparison by value
-/

namespace TargetBench

/-- Members in a list are told apart by their places as discriminants. -/
theorem getElem?_eq_some_iff_placeDiscriminant {ε : Type} {all : List ε} {place : ε → Nat}
    (hmember : ∀ i e, all[i]? = some e ↔ i = place e)
    (hplace : ∀ e, (placeDiscriminant (place e)).val = place e) {n : Unsigned 32} {e : ε} :
    all[n.val.toNat]? = some e ↔ n = placeDiscriminant (place e) := by
  rw [hmember, Bounded.ext_iff, hplace]
  have := n.lo_le
  omega

/-- The statuses have the discriminants from zero to four, each of them one. -/
instance : LawfulEnumerated NfcStatus where
  ofDiscriminant?_eq_some_iff {n e} := by
    apply getElem?_eq_some_iff_placeDiscriminant
    · intro place e
      rcases place with _ | _ | _ | _ | _ | place <;> cases e <;>
        simp [NfcStatus.all, NfcStatus.place]
    · intro e
      cases e <;> rfl

/-- The events have the discriminants from zero to six, each of them one. -/
instance : LawfulEnumerated NfcEvent where
  ofDiscriminant?_eq_some_iff {n e} := by
    apply getElem?_eq_some_iff_placeDiscriminant
    · intro place e
      rcases place with _ | _ | _ | _ | _ | _ | _ | place <;> cases e <;>
        simp [NfcEvent.all, NfcEvent.place]
    · intro e
      cases e <;> rfl

namespace Loopback

/-- A function that answers with a status, if it answers at all. -/
def AnswersStatus (handler : Handler Loopback) : Prop :=
  ∀ s args channel results, (handler s args channel).result = .ok results →
    ∃ status : NfcStatus, results = [.ofMember status]

theorem AnswersStatus.of_reportIfOpen (e : NfcEvent) :
    AnswersStatus fun s _ channel => reportIfOpen e s channel := by
  intro s args channel results h
  dsimp only [reportIfOpen] at h
  split at h
  · exact ⟨.ok, (Except.ok.inj h).symm⟩
  · exact ⟨.failed, (Except.ok.inj h).symm⟩

theorem answersStatus_openFor : AnswersStatus openFor := by
  intro s args channel results h
  rw [openFor] at h
  split at h
  · cases h
  · exact ⟨.ok, (Except.ok.inj h).symm⟩

theorem answersStatus_coreInitialized : AnswersStatus coreInitialized := by
  intro s args channel results h
  rw [coreInitialized] at h
  split at h
  · cases h
  · exact AnswersStatus.of_reportIfOpen .postInitComplete s args channel results h

theorem answersStatus_close : AnswersStatus close := by
  intro s args channel results h
  rw [close] at h
  split at h
  · exact ⟨.ok, (Except.ok.inj h).symm⟩
  · exact ⟨.failed, (Except.ok.inj h).symm⟩

theorem answersStatus_controlGranted : AnswersStatus controlGranted :=
  fun s _ _ _ h => ⟨if s.isOpen then .ok else .failed, (Except.ok.inj h).symm⟩

/-- A function that answers with a status is compared exactly as a status. -/
theorem AnswersStatus.exactOn {handler : Handler Loopback} (h : AnswersStatus handler)
    (s : Loopback) (args : Arguments) (channel : CallbackChannel) (results : List Value)
    (hresults : (handler s args channel).result = .ok results) :
    (compareStatus.getD compareValues).ExactOn results := by
  obtain ⟨status, rfl⟩ := h s args channel results hresults
  exact compareMembers_exactOn [status]

/-- Writing answers with a number, which is compared exactly by value. -/
theorem exactOn_write (s : Loopback) (args : Arguments) (channel : CallbackChannel)
    (results : List Value) (h : (write s args channel).result = .ok results) :
    compareValues.ExactOn results := by
  have hcount : ∃ n : Unsigned 32, results = [.scalar ⟨.uint32, n⟩] := by
    rw [write] at h
    split at h
    · cases h
    · rename_i data _
      -- the number is an answer whether or not any bytes were accepted
      generalize (if s.isOpen && decide (data.length ≤ maxPayload) then data.length else 0) =
        accepted at h
      dsimp only at h
      split at h
      · exact ⟨_, (Except.ok.inj h).symm⟩
      · exact ⟨_, (Except.ok.inj h).symm⟩
  obtain ⟨n, rfl⟩ := hcount
  apply compareValues_exactOn
  rw [List.forall_mem_singleton]
  exact fun want => Value.beq_scalar_iff nofun nofun

/-- The functions of the controller are compared exactly. -/
theorem exact_table : table.Exact :=
  FunctionTable.exact_empty identity
    |>.addFunction _ answersStatus_openFor.exactOn
    |>.addFunction _ exactOn_write
    |>.addFunction _ answersStatus_coreInitialized.exactOn
    |>.addFunction _ (AnswersStatus.of_reportIfOpen .preDiscoverComplete).exactOn
    |>.addFunction _ answersStatus_close.exactOn
    |>.addFunction _ answersStatus_controlGranted.exactOn
    |>.addFunction _ (AnswersStatus.of_reportIfOpen .openComplete).exactOn
    |>.addAttribute _ _

/-- Results compare alike as members and by value, whatever the enumerated type, as long as its
members are told apart by discriminants that are no binary numbers. The statuses and the events of
the controller are such types. -/
theorem results_compare_alike :
    (∀ (ε : Type) [Enumerated ε] [DecidableEq ε] [LawfulEnumerated ε],
      Enumerated.underlying ε ≠ .float → Enumerated.underlying ε ≠ .double →
        ∀ expected actual, ComparesAlike ε expected actual) ∧
      (∀ expected actual, ComparesAlike NfcStatus expected actual) ∧
      ∀ expected actual, ComparesAlike NfcEvent expected actual := by
  refine ⟨?_, ?_, ?_⟩
  · intro ε _ _ _ hf hd
    exact comparesAlike hf hd
  · intro expected actual
    apply comparesAlike
    · nofun
    · nofun
  · intro expected actual
    apply comparesAlike
    · nofun
    · nofun

end Loopback

end TargetBench
