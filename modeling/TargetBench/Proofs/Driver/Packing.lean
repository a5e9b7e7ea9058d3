import TargetBench.Proofs.Driver.Comparison
import TargetBench.Proofs.Driver.Conformance

/-!
# Native values packed and read

A function reads its arguments as native values, and packs native values into its results. Reading
undoes packing and nothing else: what is read is what was packed, element by element and in order,
and every value that can be read is the packed form of what is read from it. A sequence with an
element of another kind is refused at the first such element, and a sequence of another length than
is asked for is refused with the length that it has.

## Main definitions

* `FirstAlien`: the first element of a sequence that is not of a kind
* `Arguments.Unpacks`: an argument is read as what it was packed from

## Main results

* `Arguments.vector_eq_error_iff`: where reading a sequence stops
* `Arguments.unpacks`: all arguments are read as what they were packed from
-/

namespace TargetBench

variable {k : ScalarKind}

/-! ## Elements of another kind -/

/-- The first element of a sequence that is no scalar of a kind. -/
structure FirstAlien (k : ScalarKind) (vs : List Value) (position : Nat) : Prop where
  alien : ∃ v, vs[position]? = some v ∧ ∀ n, v ≠ .ofNative k n
  before : ∀ j < position, ∃ n, vs[j]? = some (.ofNative k n)

theorem Value.native?_eq_none_iff {v : Value} : v.native? k = none ↔ ∀ n, v ≠ .ofNative k n := by
  simp only [Option.eq_none_iff_forall_ne_some, ne_eq, native?_eq_some_iff]

theorem firstAlien_zero_iff {v : Value} {vs : List Value} :
    FirstAlien k (v :: vs) 0 ↔ ∀ n, v ≠ .ofNative k n := by
  constructor
  · rintro ⟨⟨_, ⟨⟩, halien⟩, -⟩
    exact halien
  · intro halien
    exact ⟨⟨v, rfl, halien⟩, nofun⟩

theorem firstAlien_succ_iff {v : Value} {vs : List Value} {position : Nat} :
    FirstAlien k (v :: vs) (position + 1) ↔
      (∃ n, v = .ofNative k n) ∧ FirstAlien k vs position := by
  constructor
  · rintro ⟨halien, hbefore⟩
    obtain ⟨n, hn⟩ := hbefore 0 (Nat.succ_pos position)
    refine ⟨⟨n, Option.some.inj hn⟩, halien, ?_⟩
    intro j hj
    exact hbefore (j + 1) (Nat.succ_lt_succ hj)
  · rintro ⟨⟨n, rfl⟩, halien, hbefore⟩
    refine ⟨halien, ?_⟩
    rintro (_ | j) hj
    · exact ⟨n, rfl⟩
    · exact hbefore j (Nat.lt_of_succ_lt_succ hj)

namespace Arguments

variable {a : Arguments} {index : Nat} {v : Value}

/-! ## Sequences that are not read -/

/-- Elements are refused at the first one of another kind, by its position. -/
theorem elements_eq_error_iff {first : Nat} {vs : List Value} {e : MarshalError} :
    elements k index first vs = .error e ↔
      ∃ position, FirstAlien k vs position ∧ e = .element index (first + position) k := by
  induction vs generalizing first with
  | nil =>
    refine iff_of_false nofun ?_
    rintro ⟨position, ⟨⟨v, hv, -⟩, -⟩, -⟩
    cases hv
  | cons v vs ih =>
    rw [elements]
    cases hv : v.native? k with
    | none =>
      have halien := Value.native?_eq_none_iff.mp hv
      constructor
      · rintro ⟨⟩
        exact ⟨0, firstAlien_zero_iff.mpr halien, rfl⟩
      · rintro ⟨_ | position, hfirst, rfl⟩
        · rfl
        · obtain ⟨⟨n, hn⟩, -⟩ := firstAlien_succ_iff.mp hfirst
          exact absurd hn (halien n)
    | some n =>
      have hn := Value.native?_eq_some_iff.mp hv
      -- what comes first among the others comes first after an element that is read
      have hrest : (elements k index (first + 1) vs).map (n :: ·) = .error e ↔
          elements k index (first + 1) vs = .error e := by
        cases elements k index (first + 1) vs <;> simp [Except.map]
      rw [hrest, ih]
      constructor
      · rintro ⟨position, hfirst, rfl⟩
        refine ⟨position + 1, firstAlien_succ_iff.mpr ⟨⟨n, hn⟩, hfirst⟩, ?_⟩
        rw [Nat.add_right_comm, Nat.add_assoc]
      · rintro ⟨_ | position, hfirst, rfl⟩
        · exact absurd hn (firstAlien_zero_iff.mp hfirst n)
        · obtain ⟨-, hfirst'⟩ := firstAlien_succ_iff.mp hfirst
          refine ⟨position, hfirst', ?_⟩
          rw [Nat.add_right_comm, Nat.add_assoc]

/-- A sequence is refused at its first element of another kind. -/
theorem vector_eq_error_iff {vs : List Value} (h : a.values[index]? = some (.vector vs))
    {e : MarshalError} :
    a.vector k index = .error e ↔
      ∃ position, FirstAlien k vs position ∧ e = .element index position k := by
  have hread : a.vector k index = elements k index 0 vs := by
    rw [vector, value_of_getElem? h]
    rfl
  rw [hread, elements_eq_error_iff]
  simp only [Nat.zero_add]

/-! ## Sequences of a length -/

variable {n : Nat}

theorem array_of_length_ne {xs : List k.Native} (h : a.vector k index = .ok xs)
    (hlength : xs.length ≠ n) : a.array k n index = .error (.length index n xs.length) := by
  rw [array, h]
  exact dif_neg hlength

theorem array_of_vector_error {e : MarshalError} (h : a.vector k index = .error e) :
    a.array k n index = .error e := by
  rw [array, h]
  rfl

/-! ## Both directions -/

/-- The argument at a position, which has the value `v`, is read as what `v` was packed from, and is
not read if `v` was not packed from anything. -/
structure Unpacks (a : Arguments) (index : Nat) (v : Value) : Prop where
  vector : ∀ k xs, a.vector k index = .ok xs ↔ v = .ofNatives k xs
  /-- A sequence that is not read has a first element of another kind, and this one is named. -/
  element : ∀ k vs, v = .vector vs → ∀ e, a.vector k index = .error e ↔
    ∃ position, FirstAlien k vs position ∧ e = .element index position k
  /-- A sequence of a length is read with all its elements and no others. -/
  array : ∀ k n (ys : { xs : List k.Native // xs.length = n }),
    a.array k n index = .ok ys ↔ a.vector k index = .ok ys.val
  /-- A sequence of another length is refused with the length that it has. -/
  length : ∀ k n xs, a.vector k index = .ok xs → xs.length ≠ n →
    a.array k n index = .error (.length index n xs.length)
  /-- What is not read as a sequence is not read as one of a length, for the same reason. -/
  unread : ∀ k n e, a.vector k index = .error e → a.array k n index = .error e
  member : ∀ (ε : Type) [Enumerated ε] [LawfulEnumerated ε] (e : ε),
    a.member ε index = .ok e ↔ v = .ofMember e

/-- **Reading undoes packing, and nothing else.** An argument of any value, whatever arguments stand
before and after it, is read as a native sequence if and only if it is what packing this sequence
gives, and as a member of an enumerated type if and only if it is what packing the member gives. -/
theorem unpacks (before after : List Value) (v : Value) :
    Unpacks ⟨before ++ v :: after⟩ before.length v := by
  have h : (before ++ v :: after)[before.length]? = some v := by simp
  constructor
  case vector => exact fun k xs => vector_eq_ok_iff h
  case element =>
    rintro k vs rfl e
    exact vector_eq_error_iff h
  case array =>
    intro k n ys
    rw [array_eq_ok_iff h, vector_eq_ok_iff h]
  case length => exact fun k n xs => array_of_length_ne
  case unread => exact fun k n e => array_of_vector_error
  case member =>
    intro ε _ _ e
    rw [member_of_getElem? h, Enumerated.member_eq_ok_iff]

end Arguments

end TargetBench
