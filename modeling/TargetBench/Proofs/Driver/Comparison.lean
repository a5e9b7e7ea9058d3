import TargetBench.Driver.Verification
import TargetBench.Proofs.Driver.Calling
import TargetBench.Proofs.Driver.Conformance

/-!
# Comparisons that tell results apart

A comparison of results is exact on some results if it passes these and no other expectation.
Comparing by value is exact on values without binary numbers, among which equality is identity;
comparing as members is exact on members, because a discriminant that belongs to a member belongs
to no other. A table is exact if the comparison that each of its functions asks for is exact on what
the function returns.

## Main definitions

* `Verifier.ExactOn`: comparisons that pass the actual results and no others
* `Verifier.pairwise`: the comparison pair by pair that both comparisons are
* `LawfulEnumerated`: enumerated types whose members are told apart by their discriminants
* `FunctionTable.Exact`: tables whose functions are compared exactly

## Main results

* `Verifier.pairwise_eq_ok_iff`: results pass pair by pair if every pair passes
* `compareValues_exactOn`, `compareMembers_exactOn`: when the two comparisons are exact
* `Driver.length_eq_of_verify`: results of another number than expected never pass
* `Driver.verify_eq_ok_iff`: an exact table passes what was returned, and nothing else
-/

namespace TargetBench

/-- A comparison that passes the actual results and no others. -/
def Verifier.ExactOn (v : Verifier) (actual : List Value) : Prop :=
  ∀ expected, v expected actual = .ok () ↔ expected = actual

/-! ## Comparison pair by pair -/

theorem compareCounts_eq_ok_iff {expected actual : List Value} :
    compareCounts expected actual = .ok () ↔ expected.length = actual.length := by
  rw [compareCounts]
  split <;> simp [*]

theorem Except.bind_eq_ok_iff {ε α β : Type} {x : Except ε α} {f : α → Except ε β} {b : β} :
    (x >>= f) = .ok b ↔ ∃ a, x = .ok a ∧ f a = .ok b := by
  cases x with
  | error e => exact ⟨nofun, nofun⟩
  | ok a => exact ⟨fun h => ⟨a, rfl, h⟩, fun ⟨_, ha, h⟩ => Except.ok.inj ha ▸ h⟩

/-- The comparison pair by pair, after that of the numbers. -/
def Verifier.pairwise (compare : Nat → Value → Value → Except VerifyError Unit) : Verifier :=
  fun expected actual => do
    compareCounts expected actual
    comparePairs compare 0 (expected.zip actual)

section

variable {compare : Nat → Value → Value → Except VerifyError Unit} {expected actual : List Value}

theorem comparePairs_eq_checkEach (index : Nat) (pairs : List (Value × Value)) :
    comparePairs compare index pairs =
      checkEach (fun i pair => compare i pair.1 pair.2) index pairs := by
  induction pairs generalizing index with
  | nil => rfl
  | cons pair pairs ih =>
    rw [comparePairs, checkEach]
    simp only [ih]

/-- Results pass pair by pair if there are as many as expected and every pair passes. -/
theorem Verifier.pairwise_eq_ok_iff :
    pairwise compare expected actual = .ok () ↔ expected.length = actual.length ∧
      ∀ i want got, expected[i]? = some want → actual[i]? = some got →
        compare i want got = .ok () := by
  rw [pairwise, Except.bind_eq_ok_iff, ← compareCounts_eq_ok_iff]
  simp only [comparePairs_eq_checkEach, checkEach_eq_ok_iff, Prod.forall,
    List.getElem?_zip_eq_some, Nat.zero_add, and_imp]
  constructor
  · rintro ⟨⟨⟩, hcounts, hpairs⟩
    exact ⟨hcounts, hpairs⟩
  · rintro ⟨hcounts, hpairs⟩
    exact ⟨(), hcounts, hpairs⟩

/-- Comparison pair by pair is exact if only the actual value of a pair passes as its
expectation. -/
theorem Verifier.pairwise_exactOn
    (h : ∀ got ∈ actual, ∀ index want, compare index want got = .ok () ↔ want = got) :
    (pairwise compare).ExactOn actual := by
  intro expected
  rw [pairwise_eq_ok_iff]
  constructor
  · rintro ⟨hlength, hpairs⟩
    apply List.ext_getElem hlength
    intro i hi hi'
    have hpair := hpairs i _ _ (List.getElem?_eq_getElem hi) (List.getElem?_eq_getElem hi')
    exact (h _ (List.getElem_mem hi') i _).mp hpair
  · rintro rfl
    refine ⟨rfl, ?_⟩
    intro i want got hwant hgot
    obtain rfl := Option.some.inj (hwant.symm.trans hgot)
    exact (h want (List.mem_of_getElem? hwant) i want).mpr rfl

end

/-! ## Comparison by value -/

/-- Scalars of all kinds but the binary numbers are equal only if they are the same. -/
theorem Scalar.beq_iff_of_kind {x y : Scalar} (hf : y.kind ≠ .float) (hd : y.kind ≠ .double) :
    (x == y) = true ↔ x = y := by
  obtain ⟨kind, a⟩ := x
  obtain ⟨kind', b⟩ := y
  by_cases hkind : kind' = kind
  · subst hkind
    have hsame : ((⟨kind', a⟩ : Scalar) == ⟨kind', b⟩) = kind'.same a b := dif_pos rfl
    rw [hsame, Scalar.mk.injEq, heq_eq_eq, and_iff_right rfl]
    cases kind' with
    | float => exact absurd rfl hf
    | double => exact absurd rfl hd
    | bool => exact beq_iff_eq
    | _ => exact beq_iff_eq.trans Bounded.ext_iff.symm
  · have hsame : ((⟨kind, a⟩ : Scalar) == ⟨kind', b⟩) = false := dif_neg hkind
    rw [hsame, Scalar.mk.injEq]
    exact iff_of_false nofun fun h => hkind h.1.symm

theorem Value.beq_scalar_iff {v : Value} {x : Scalar} (hf : x.kind ≠ .float)
    (hd : x.kind ≠ .double) : (v == .scalar x) = true ↔ v = .scalar x := by
  cases v with
  | scalar y =>
    rw [Value.scalar.injEq, ← Scalar.beq_iff_of_kind hf hd]
    rfl
  | _ => exact iff_of_false nofun nofun

/-- Compares a pair by value. -/
def compareValue (index : Nat) (want got : Value) : Except VerifyError Unit :=
  if want == got then .ok () else .error (.value index)

theorem compareValues_eq_pairwise : compareValues = .pairwise compareValue := rfl

theorem compareValue_eq_ok_iff {index : Nat} {want got : Value} :
    compareValue index want got = .ok () ↔ (want == got) = true := by
  rw [compareValue]
  split <;> simp [*]

/-- Comparison by value is exact where equality is identity. -/
theorem compareValues_exactOn {actual : List Value}
    (h : ∀ got ∈ actual, ∀ want, (want == got) = true ↔ want = got) :
    compareValues.ExactOn actual := by
  rw [compareValues_eq_pairwise]
  apply Verifier.pairwise_exactOn
  intro got hgot index want
  rw [compareValue_eq_ok_iff, h got hgot]

/-! ## Comparison as members -/

/-- An enumerated type whose members are told apart by their discriminants. -/
class LawfulEnumerated (ε : Type) [Enumerated ε] : Prop where
  ofDiscriminant?_eq_some_iff {n : (Enumerated.underlying ε).Native} {e : ε} :
    Enumerated.ofDiscriminant? n = some e ↔ n = Enumerated.discriminant e

variable {ε : Type} [Enumerated ε] [LawfulEnumerated ε]

/-- A value is read as a member only if it is the value of the member. -/
theorem Enumerated.member_eq_ok_iff {index : Nat} {v : Value} {e : ε} :
    Enumerated.member ε index v = .ok e ↔ v = .ofMember e := by
  simp only [member_eq_ok_iff_exists, LawfulEnumerated.ofDiscriminant?_eq_some_iff]
  constructor
  · rintro ⟨n, hv, rfl⟩
    exact hv
  · intro hv
    exact ⟨discriminant e, hv, rfl⟩

/-- Compares a pair as members of an enumerated type. -/
def compareMember (ε : Type) [Enumerated ε] [DecidableEq ε] (index : Nat) (want got : Value) :
    Except VerifyError Unit := do
  let wanted ← (Enumerated.member ε index want).mapError (VerifyError.incomparable index)
  let gotten ← (Enumerated.member ε index got).mapError (VerifyError.incomparable index)
  if wanted = gotten then .ok () else .error (.value index)

theorem compareMembers_eq_pairwise (ε : Type) [Enumerated ε] [DecidableEq ε] :
    compareMembers ε = .pairwise (compareMember ε) := rfl

/-- A pair compares as members if both values are those of one member. -/
theorem compareMember_eq_ok_iff [DecidableEq ε] {index : Nat} {want got : Value} :
    compareMember ε index want got = .ok () ↔ ∃ e : ε, want = .ofMember e ∧ got = .ofMember e := by
  have hread (v : Value) (e : ε) : Enumerated.member ε index v = .ok e ↔ v = .ofMember e :=
    Enumerated.member_eq_ok_iff
  simp only [← hread]
  rw [compareMember]
  cases Enumerated.member ε index want with
  | error source =>
    refine iff_of_false nofun ?_
    rintro ⟨e, ⟨⟩, -⟩
  | ok wanted =>
    cases Enumerated.member ε index got with
    | error source =>
      refine iff_of_false nofun ?_
      rintro ⟨e, -, ⟨⟩⟩
    | ok gotten =>
      show (if wanted = gotten then (.ok () : Except VerifyError Unit) else _) = _ ↔ _
      simp only [Except.ok.injEq, exists_eq_left']
      split
      · rename_i hsame
        exact iff_of_true rfl hsame.symm
      · rename_i hother
        exact iff_of_false nofun fun h => hother h.symm

/-- Comparison as members is exact on members. -/
theorem compareMembers_exactOn [DecidableEq ε] (es : List ε) :
    (compareMembers ε).ExactOn (es.map Value.ofMember) := by
  rw [compareMembers_eq_pairwise]
  apply Verifier.pairwise_exactOn
  rw [List.forall_mem_map]
  intro e _ index want
  rw [compareMember_eq_ok_iff]
  constructor
  · rintro ⟨e', rfl, he⟩
    exact he.symm
  · rintro rfl
    exact ⟨e, rfl, rfl⟩

/-! ## Tables -/

variable {δ : Type}

/-- The comparison that a function asks for. -/
def FunctionEntry.compare (entry : FunctionEntry δ) : Verifier :=
  entry.verifier.getD compareValues

namespace FunctionTable

/-- A table whose functions are compared exactly: with whatever one of them returns, its comparison
passes this and no other expectation. -/
def Exact (t : FunctionTable δ) : Prop :=
  ∀ entry ∈ t.functions, ∀ s args channel results,
    (entry.handler s args channel).result = .ok results → entry.compare.ExactOn results

theorem exact_empty (identity : Interface) : (empty identity : FunctionTable δ).Exact := by
  intro entry hentry
  cases hentry

theorem Exact.addFunction {t : FunctionTable δ} (ht : t.Exact) (signature : Signature)
    {handler : Handler δ} {verifier : Option Verifier}
    (h : ∀ s args channel results, (handler s args channel).result = .ok results →
      (verifier.getD compareValues).ExactOn results) :
    (t.addFunction signature handler verifier).Exact := by
  intro entry hentry
  rcases List.mem_append.mp hentry with hold | hnew
  · exact ht entry (List.mem_filter.mp hold).1
  · cases List.mem_singleton.mp hnew
    exact h

theorem Exact.addAttribute {t : FunctionTable δ} (ht : t.Exact) (declaration : Attribute)
    (getter : δ → Value) : (t.addAttribute declaration getter).Exact := ht

end FunctionTable

namespace Driver

/-- Results of another number than expected are never verified, whatever comparison the function
asks for. -/
theorem length_eq_of_verify {d : Driver δ} {e : Expectation} {actual : List Value}
    (h : d.verify e actual = .ok ()) : e.expected.length = actual.length := by
  rw [verify] at h
  cases hentry : d.table.function? e.name with
  | none =>
    rw [hentry] at h
    cases h
  | some entry =>
    rw [hentry] at h
    -- the numbers are compared before the comparison of the function is asked
    obtain ⟨⟨⟩, hcounts, -⟩ := Except.bind_eq_ok_iff.mp h
    exact compareCounts_eq_ok_iff.mp hcounts

/-- With an exact table, verification passes what a call returned and no other expectation, in
whatever state the driver is by then. -/
theorem verify_eq_ok_iff {d : Driver δ} (ht : d.table.Exact) {c : Call}
    {channel : CallbackChannel} {results : List Value}
    (h : (d.call c channel).result = .ok results) (s : δ) (expected : List Value) :
    { d with state := s }.verify ⟨c.name, expected⟩ results = .ok () ↔ expected = results := by
  -- verification finds the function that was called, whatever the call did to the state
  obtain ⟨entry, ⟨hentry, -⟩, hresults, -⟩ := call_eq_ok_iff.mp h
  have hexact := ht entry (FunctionTable.mem_of_function? hentry) _ _ _ _ hresults expected
  rw [verify]
  simp only [hentry, Except.bind_eq_ok_iff]
  constructor
  · rintro ⟨⟨⟩, -, hcompare⟩
    exact hexact.mp hcompare
  · rintro rfl
    exact ⟨(), compareCounts_eq_ok_iff.mpr rfl, hexact.mpr rfl⟩

end Driver

end TargetBench
