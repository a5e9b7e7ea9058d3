import TargetBench.Proofs.Driver.Comparison

/-!
# The first difference

A comparison names the first pair that it does not pass. By value, that is the first pair whose
values differ. As members, it is the first pair of which the expectation cannot be read, or the
actual value cannot, or the members differ. Where all values are those of members the two
comparisons come to the same end, because a member has one value only. Elsewhere comparison as
members passes fewer expectations: those that are not members never pass.

## Main definitions

* `FirstFault`: the first pair of which something is wrong
* `FirstDifference`: the first position at which results differ
* `Mispaired`: what is wrong with a pair when it is compared as members
* `ComparesAlike`: how the two comparisons are related

## Main results

* `Verifier.pairwise_eq_error_iff`: a comparison stops at the first pair that does not pass
* `compareMembers_eq_ok_iff`: what passes as members passes by value and is expected of members
* `comparesAlike`: the two comparisons are related in this way for all results
-/

namespace TargetBench

/-! ## The first fault -/

/-- The first pair of which something is wrong, by a relation between the pairs at a position and
the errors about them. -/
structure FirstFault (fault : Nat → Value → Value → VerifyError → Prop)
    (expected actual : List Value) (i : Nat) (e : VerifyError) : Prop where
  faulty : ∃ want got, expected[i]? = some want ∧ actual[i]? = some got ∧ fault i want got e
  before : ∀ j < i, ∀ want got, expected[j]? = some want → actual[j]? = some got →
    ∀ e', ¬ fault j want got e'

/-- The first position at which results differ from what is expected. -/
structure FirstDifference (expected actual : List Value) (i : Nat) : Prop where
  differs : expected[i]? ≠ actual[i]?
  before : ∀ j < i, expected[j]? = actual[j]?

section

variable {expected actual : List Value} {i : Nat} {e : VerifyError}
  {fault : Nat → Value → Value → VerifyError → Prop}

/-- In lists of one length, a position has a pair or lies beyond both. -/
theorem exists_pair_or_none (hlength : expected.length = actual.length) (i : Nat) :
    (∃ want got, expected[i]? = some want ∧ actual[i]? = some got) ∨
      (expected[i]? = none ∧ actual[i]? = none) := by
  rcases Nat.lt_or_ge i expected.length with hi | hi
  · exact .inl ⟨_, _, List.getElem?_eq_getElem hi, List.getElem?_eq_getElem (hlength ▸ hi)⟩
  · exact .inr ⟨List.getElem?_eq_none hi, List.getElem?_eq_none (hlength ▸ hi)⟩

/-- If what is wrong with a pair is that its values differ, the first fault is the first
difference. -/
theorem FirstFault.iff_firstDifference (hlength : expected.length = actual.length)
    (hfault : ∀ i want got, expected[i]? = some want → actual[i]? = some got → ∀ e,
      fault i want got e ↔ want ≠ got ∧ e = .value i) :
    FirstFault fault expected actual i e ↔ FirstDifference expected actual i ∧ e = .value i := by
  constructor
  · rintro ⟨⟨want, got, hwant, hgot, hfaulty⟩, hbefore⟩
    obtain ⟨hdiffers, rfl⟩ := (hfault i want got hwant hgot e).mp hfaulty
    refine ⟨⟨?_, ?_⟩, rfl⟩
    · rw [hwant, hgot]
      exact fun h => hdiffers (Option.some.inj h)
    · -- nothing is wrong before the first fault, so the values are the same there
      intro j hj
      rcases exists_pair_or_none hlength j with ⟨want', got', hwant', hgot'⟩ | ⟨hwant', hgot'⟩
      · rw [hwant', hgot', Option.some.injEq]
        apply Classical.byContradiction
        intro hother
        have hfaulty' := (hfault j want' got' hwant' hgot' _).mpr ⟨hother, rfl⟩
        exact hbefore j hj want' got' hwant' hgot' _ hfaulty'
      · rw [hwant', hgot']
  · rintro ⟨⟨hdiffers, hbefore⟩, rfl⟩
    rcases exists_pair_or_none hlength i with ⟨want, got, hwant, hgot⟩ | ⟨hwant, hgot⟩
    · refine ⟨⟨want, got, hwant, hgot, (hfault i want got hwant hgot _).mpr ⟨?_, rfl⟩⟩, ?_⟩
      · rintro rfl
        exact hdiffers (hwant.trans hgot.symm)
      · intro j hj want' got' hwant' hgot' e' hfaulty
        -- the values before the first difference are the same, and nothing is wrong with them
        obtain ⟨hother, -⟩ := (hfault j want' got' hwant' hgot' e').mp hfaulty
        exact hother (Option.some.inj (hwant'.symm.trans ((hbefore j hj).trans hgot')))
    · -- beyond both lists nothing differs
      exact absurd (hwant.trans hgot.symm) hdiffers

end

/-! ## Comparison pair by pair -/

section

variable {compare : Nat → Value → Value → Except VerifyError Unit} {expected actual : List Value}

namespace Verifier

/-- Results of another number than expected are not compared any further. -/
theorem pairwise_of_length_ne (hlength : expected.length ≠ actual.length) :
    pairwise compare expected actual = .error (.count expected.length actual.length) := by
  rw [pairwise, compareCounts, if_neg hlength]
  rfl

/-- As many results as expected are compared up to the first pair of which something is wrong. -/
theorem pairwise_eq_error_iff {fault : Nat → Value → Value → VerifyError → Prop} {e : VerifyError}
    (hfault : ∀ i want got e, compare i want got = .error e ↔ fault i want got e)
    (hlength : expected.length = actual.length) :
    pairwise compare expected actual = .error e ↔ ∃ i, FirstFault fault expected actual i e := by
  -- a pair passes if nothing is wrong with it
  have hpasses (i : Nat) (want got : Value) :
      compare i want got = .ok () ↔ ∀ e', ¬ fault i want got e' := by
    simp only [← hfault]
    cases compare i want got <;> simp
  rw [pairwise, compareCounts, if_pos hlength]
  show comparePairs compare 0 (expected.zip actual) = .error e ↔ _
  simp only [comparePairs_eq_checkEach, checkEach_eq_error_iff, Prod.exists, Prod.forall,
    List.getElem?_zip_eq_some, and_imp, Nat.zero_add, hfault, hpasses]
  constructor
  · rintro ⟨i, want, got, ⟨hwant, hgot⟩, hfaulty, hbefore⟩
    exact ⟨i, ⟨want, got, hwant, hgot, hfaulty⟩, hbefore⟩
  · rintro ⟨i, ⟨want, got, hwant, hgot, hfaulty⟩, hbefore⟩
    exact ⟨i, want, got, ⟨hwant, hgot⟩, hfaulty, hbefore⟩

end Verifier

end

/-! ## Both comparisons -/

variable {ε : Type} [Enumerated ε]

/-- What is wrong with a pair when it is compared as members. The expectation is read first and then
the actual value, and members that are read are compared. -/
inductive Mispaired (ε : Type) [Enumerated ε] (i : Nat) (want got : Value) :
    VerifyError → Prop where
  | expectation {source : MarshalError} : Enumerated.member ε i want = .error source →
      Mispaired ε i want got (.incomparable i source)
  | actual {wanted : ε} {source : MarshalError} : Enumerated.member ε i want = .ok wanted →
      Enumerated.member ε i got = .error source → Mispaired ε i want got (.incomparable i source)
  | unequal {wanted gotten : ε} : Enumerated.member ε i want = .ok wanted →
      Enumerated.member ε i got = .ok gotten → wanted ≠ gotten → Mispaired ε i want got (.value i)

theorem compareMember_eq_error_iff [DecidableEq ε] {i : Nat} {want got : Value} {e : VerifyError} :
    compareMember ε i want got = .error e ↔ Mispaired ε i want got e := by
  rw [compareMember]
  constructor
  · intro h
    cases hwant : Enumerated.member ε i want with
    | error source =>
      rw [hwant] at h
      cases h
      exact .expectation hwant
    | ok wanted =>
      cases hgot : Enumerated.member ε i got with
      | error source =>
        rw [hwant, hgot] at h
        cases h
        exact .actual hwant hgot
      | ok gotten =>
        -- both are read, so the members are compared
        rw [hwant, hgot] at h
        change (if wanted = gotten then _ else _) = _ at h
        split at h
        · cases h
        · rename_i hother
          cases h
          exact .unequal hwant hgot hother
  · rintro (hwant | ⟨hwant, hgot⟩ | ⟨hwant, hgot, hother⟩)
    · rw [hwant]
      rfl
    · rw [hwant, hgot]
      rfl
    · rw [hwant, hgot]
      exact if_neg hother

theorem compareValue_eq_error_iff {i : Nat} {want got : Value} {e : VerifyError} :
    compareValue i want got = .error e ↔ ¬ (want == got) = true ∧ e = .value i := by
  rw [compareValue]
  split <;> simp [*, eq_comm]

/-- A value that is read as a member, at whatever position it stands. -/
def Enumerated.Decodes (ε : Type) [Enumerated ε] (v : Value) : Prop :=
  ∃ e : ε, ∀ i, Enumerated.member ε i v = .ok e

/-- How comparison as members is related to comparison by value. -/
structure ComparesAlike (ε : Type) [Enumerated ε] [DecidableEq ε] (expected actual : List Value) :
    Prop where
  /-- As members pass exactly those expectations that pass by value and are members. -/
  passes : compareMembers ε expected actual = .ok () ↔
    compareValues expected actual = .ok () ∧ ∀ v ∈ expected, Enumerated.Decodes ε v
  /-- Both find another number of results than expected before anything else. -/
  counts : expected.length ≠ actual.length →
    compareMembers ε expected actual = .error (.count expected.length actual.length) ∧
      compareValues expected actual = .error (.count expected.length actual.length)
  /-- If all values are those of members, both name the first difference. -/
  differs : expected.length = actual.length →
    (∀ v ∈ expected, Enumerated.Decodes ε v) → (∀ v ∈ actual, Enumerated.Decodes ε v) → ∀ e,
      (compareMembers ε expected actual = .error e ↔
        ∃ i, FirstDifference expected actual i ∧ e = .value i) ∧
      (compareValues expected actual = .error e ↔
        ∃ i, FirstDifference expected actual i ∧ e = .value i)
  /-- In any case comparison as members stops at the first pair of which something is wrong. -/
  stops : expected.length = actual.length → ∀ e, compareMembers ε expected actual = .error e ↔
    ∃ i, FirstFault (Mispaired ε) expected actual i e

section

variable [LawfulEnumerated ε]

theorem Enumerated.decodes_iff {v : Value} : Decodes ε v ↔ ∃ e : ε, v = .ofMember e := by
  rw [Decodes]
  simp only [member_eq_ok_iff, forall_const]

theorem Value.ofMember_inj {e e' : ε} : Value.ofMember e = .ofMember e' ↔ e = e' := by
  constructor
  · intro h
    have he : Enumerated.member ε 0 (.ofMember e) = .ok e := Enumerated.member_eq_ok_iff.mpr rfl
    exact Except.ok.inj (he.symm.trans (Enumerated.member_eq_ok_iff.mpr h))
  · exact congrArg Value.ofMember

/-- Between values of members something is wrong only if they differ. -/
theorem mispaired_ofMember_iff {i : Nat} {wanted gotten : ε} {e : VerifyError} :
    Mispaired ε i (.ofMember wanted) (.ofMember gotten) e ↔
      Value.ofMember wanted ≠ .ofMember gotten ∧ e = .value i := by
  have hread (e : ε) : Enumerated.member ε i (.ofMember e) = .ok e :=
    Enumerated.member_eq_ok_iff.mpr rfl
  rw [ne_eq, Value.ofMember_inj]
  constructor
  · -- values of members are read, so only the last fault is left
    rintro (hwant | ⟨hwant, hgot⟩ | ⟨hwant, hgot, hother⟩)
    · cases (hread wanted).symm.trans hwant
    · cases (hread gotten).symm.trans hgot
    · cases (hread wanted).symm.trans hwant
      cases (hread gotten).symm.trans hgot
      exact ⟨hother, rfl⟩
  · rintro ⟨hother, rfl⟩
    exact .unequal (hread wanted) (hread gotten) hother

end

/-- A scalar of a kind other than the binary numbers is equal only to itself. -/
theorem Scalar.beq_iff_of_left_kind {x y : Scalar} (hf : x.kind ≠ .float) (hd : x.kind ≠ .double) :
    (x == y) = true ↔ x = y := by
  by_cases hkind : y.kind = x.kind
  · exact beq_iff_of_kind (hkind ▸ hf) (hkind ▸ hd)
  · have hsame : (x == y) = false := dif_neg hkind
    rw [hsame]
    refine iff_of_false nofun ?_
    rintro rfl
    exact hkind rfl

/-- The value of a member is equal only to itself, unless its discriminant is a binary number. -/
theorem Value.ofMember_beq_iff (hf : Enumerated.underlying ε ≠ .float)
    (hd : Enumerated.underlying ε ≠ .double) {e : ε} {v : Value} :
    (Value.ofMember e == v) = true ↔ Value.ofMember e = v := by
  cases v with
  | enumerated name x =>
    show (_ == name && _ == x) = true ↔ _
    rw [Bool.and_eq_true, beq_iff_eq, Scalar.beq_iff_of_left_kind hf hd, ofMember,
      Value.enumerated.injEq]
  | _ => exact iff_of_false nofun nofun

/-- What is equal by value to a value that is read as a member is the same value. -/
theorem Enumerated.Decodes.beq_iff [LawfulEnumerated ε] (hf : Enumerated.underlying ε ≠ .float)
    (hd : Enumerated.underlying ε ≠ .double) {want got : Value}
    (hwant : Enumerated.Decodes ε want) : (want == got) = true ↔ want = got := by
  obtain ⟨e, rfl⟩ := Enumerated.decodes_iff.mp hwant
  exact Value.ofMember_beq_iff hf hd

section

variable {expected actual : List Value}

/-- Comparison as members stops at the first pair of which something is wrong. -/
theorem compareMembers_eq_error_iff [DecidableEq ε] {e : VerifyError}
    (hlength : expected.length = actual.length) :
    compareMembers ε expected actual = .error e ↔
      ∃ i, FirstFault (Mispaired ε) expected actual i e :=
  Verifier.pairwise_eq_error_iff (fun _ _ _ _ => compareMember_eq_error_iff) hlength

/-- Comparison by value stops at the first pair whose values are not equal. -/
theorem compareValues_eq_error_iff {e : VerifyError} (hlength : expected.length = actual.length) :
    compareValues expected actual = .error e ↔
      ∃ i, FirstFault (fun i want got e => ¬ (want == got) = true ∧ e = .value i)
        expected actual i e :=
  Verifier.pairwise_eq_error_iff (fun _ _ _ _ => compareValue_eq_error_iff) hlength

variable [LawfulEnumerated ε]

/-- Between results that are members, comparison as members names the first difference. -/
theorem compareMembers_eq_error_iff_of_decodes [DecidableEq ε] {e : VerifyError}
    (hlength : expected.length = actual.length)
    (hexpected : ∀ v ∈ expected, Enumerated.Decodes ε v)
    (hactual : ∀ v ∈ actual, Enumerated.Decodes ε v) :
    compareMembers ε expected actual = .error e ↔
      ∃ i, FirstDifference expected actual i ∧ e = .value i := by
  rw [compareMembers_eq_error_iff hlength]
  apply exists_congr
  intro i
  apply FirstFault.iff_firstDifference hlength
  intro i want got hwant hgot e
  obtain ⟨wanted, rfl⟩ := Enumerated.decodes_iff.mp (hexpected want (List.mem_of_getElem? hwant))
  obtain ⟨gotten, rfl⟩ := Enumerated.decodes_iff.mp (hactual got (List.mem_of_getElem? hgot))
  exact mispaired_ofMember_iff

variable (hf : Enumerated.underlying ε ≠ .float) (hd : Enumerated.underlying ε ≠ .double)

include hf hd

/-- If members are expected, comparison by value names the first difference. -/
theorem compareValues_eq_error_iff_of_decodes {e : VerifyError}
    (hlength : expected.length = actual.length)
    (hexpected : ∀ v ∈ expected, Enumerated.Decodes ε v) :
    compareValues expected actual = .error e ↔
      ∃ i, FirstDifference expected actual i ∧ e = .value i := by
  rw [compareValues_eq_error_iff hlength]
  apply exists_congr
  intro i
  apply FirstFault.iff_firstDifference hlength
  intro i want got hwant hgot e
  rw [(hexpected want (List.mem_of_getElem? hwant)).beq_iff hf hd]

/-- As members pass exactly those expectations that pass by value and are members. -/
theorem compareMembers_eq_ok_iff [DecidableEq ε] :
    compareMembers ε expected actual = .ok () ↔
      compareValues expected actual = .ok () ∧ ∀ v ∈ expected, Enumerated.Decodes ε v := by
  rw [compareMembers_eq_pairwise, compareValues_eq_pairwise, Verifier.pairwise_eq_ok_iff,
    Verifier.pairwise_eq_ok_iff]
  simp only [compareMember_eq_ok_iff, compareValue_eq_ok_iff]
  constructor
  · rintro ⟨hlength, hpairs⟩
    refine ⟨⟨hlength, ?_⟩, ?_⟩
    · intro i want got hwant hgot
      obtain ⟨e, rfl, rfl⟩ := hpairs i want got hwant hgot
      exact (Value.ofMember_beq_iff hf hd).mpr rfl
    · -- every expectation has an actual value beside it, and both are those of one member
      intro want hwant
      obtain ⟨i, hi, rfl⟩ := List.getElem_of_mem hwant
      obtain ⟨e, he, -⟩ := hpairs i _ _ (List.getElem?_eq_getElem hi)
        (List.getElem?_eq_getElem (hlength ▸ hi))
      exact Enumerated.decodes_iff.mpr ⟨e, he⟩
  · -- an expectation that is a member is equal to this member only
    rintro ⟨⟨hlength, hpairs⟩, hdecodes⟩
    refine ⟨hlength, ?_⟩
    intro i want got hwant hgot
    have hdecode := hdecodes want (List.mem_of_getElem? hwant)
    obtain rfl := (hdecode.beq_iff hf hd).mp (hpairs i want got hwant hgot)
    obtain ⟨e, rfl⟩ := Enumerated.decodes_iff.mp hdecode
    exact ⟨e, rfl, rfl⟩

/-- All results compare alike as members and by value, if members are told apart by discriminants
that are no binary numbers. -/
theorem comparesAlike [DecidableEq ε] (expected actual : List Value) :
    ComparesAlike ε expected actual := by
  constructor
  case passes => exact compareMembers_eq_ok_iff hf hd
  case counts =>
    intro hlength
    exact ⟨Verifier.pairwise_of_length_ne hlength, Verifier.pairwise_of_length_ne hlength⟩
  case differs =>
    intro hlength hexpected hactual e
    exact ⟨compareMembers_eq_error_iff_of_decodes hlength hexpected hactual,
      compareValues_eq_error_iff_of_decodes hf hd hlength hexpected⟩
  case stops =>
    intro hlength e
    exact compareMembers_eq_error_iff hlength

end

end TargetBench
