import TargetBench.Driver.Enumerated

/-!
# Declared types and typed access

Arguments are judged in two places: a declared type says which values are acceptable, and a function
reads the values as native ones. Each type of native values has its own image among the values, and
both places draw their line around it: what is acceptable is the value of something native, and what
is read is that of which the argument is the value. Only an enumerated type may have a discriminant
that belongs to none of its members; then a value is acceptable and still cannot be read.

## Main definitions

* `Arguments.Judged`: an argument is judged alike in both places

## Main results

* `Descriptor.admits_scalar_iff`, `Descriptor.admits_vector_iff`, `Descriptor.admits_array_iff`:
  what is acceptable
* `Arguments.scalar_eq_ok_iff`, `Arguments.vector_eq_ok_iff`, `Arguments.array_eq_ok_iff`: what is
  read
* `Arguments.judged`: all arguments are judged alike
-/

namespace TargetBench

variable {k : ScalarKind} {v : Value}

theorem Value.native?_eq_some_iff {n : k.Native} : v.native? k = some n ↔ v = .ofNative k n := by
  cases v with
  | scalar x => rw [native?, ofNative, scalar.injEq, Scalar.as?_eq_some_iff]
  | _ => simp [native?, ofNative]

/-! ## What is acceptable -/

namespace Descriptor

theorem admits_scalar_iff : (scalar k).admits v = true ↔ ∃ n, v = .ofNative k n := by
  cases v with
  | scalar x =>
    rw [admits, decide_eq_true_eq]
    constructor
    · rintro rfl
      exact ⟨x.native, rfl⟩
    · rintro ⟨n, ⟨⟩⟩
      rfl
  | _ => simp [admits, Value.ofNative]

/-- Sequences of which all elements are values of native ones are values of native sequences. -/
theorem forall_admits_scalar_iff {vs : List Value} :
    (∀ v ∈ vs, (scalar k).admits v = true) ↔ ∃ xs : List k.Native, vs = xs.map (.ofNative k) := by
  simp only [admits_scalar_iff]
  induction vs with
  | nil => exact iff_of_true nofun ⟨[], rfl⟩
  | cons v vs ih =>
    rw [List.forall_mem_cons, ih]
    constructor
    · rintro ⟨⟨n, rfl⟩, xs, rfl⟩
      exact ⟨n :: xs, rfl⟩
    · rintro ⟨_ | ⟨n, xs⟩, h⟩
      · cases h
      · obtain ⟨rfl, rfl⟩ := List.cons.inj h
        exact ⟨⟨n, rfl⟩, xs, rfl⟩

theorem admits_vector_iff :
    (vector (scalar k)).admits v = true ↔ ∃ xs, v = .ofNatives k xs := by
  cases v with
  | vector vs =>
    rw [admits, List.all_eq_true, forall_admits_scalar_iff]
    simp only [Value.ofNatives, Value.vector.injEq]
  | _ => simp [admits, Value.ofNatives]

theorem admits_array_iff {n : Unsigned 64} :
    (array (scalar k) n).admits v = true ↔
      ∃ xs : List k.Native, xs.length = n.val.toNat ∧ v = .ofNatives k xs := by
  have hn := n.lo_le
  cases v with
  | vector vs =>
    rw [admits, Bool.and_eq_true, decide_eq_true_eq, List.all_eq_true, forall_admits_scalar_iff]
    simp only [Value.ofNatives, Value.vector.injEq]
    -- as many elements as there are native ones
    constructor
    · rintro ⟨hlength, xs, rfl⟩
      refine ⟨xs, ?_, rfl⟩
      rw [List.length_map] at hlength
      omega
    · rintro ⟨xs, hlength, rfl⟩
      refine ⟨?_, xs, rfl⟩
      rw [List.length_map]
      omega
  | _ => simp [admits, Value.ofNatives]

theorem admits_text_iff : text.admits v = true ↔ ∃ s, v = .text s := by
  cases v <;> simp [admits]

theorem admits_callback_iff {interface : String} :
    (callback interface).admits v = true ↔ ∃ name, v = .callback name := by
  cases v <;> simp [admits]

end Descriptor

theorem Enumerated.admits_descriptor_iff {ε : Type} [Enumerated ε] :
    (descriptor ε).admits v = true ↔
      ∃ n, v = .enumerated (typeName ε) ⟨underlying ε, n⟩ := by
  cases v with
  | enumerated name x =>
    obtain ⟨kind, n⟩ := x
    rw [descriptor, Descriptor.admits, Bool.and_eq_true, decide_eq_true_eq, decide_eq_true_eq]
    constructor
    · rintro ⟨rfl, rfl⟩
      exact ⟨n, rfl⟩
    · rintro ⟨n', ⟨⟩⟩
      exact ⟨rfl, rfl⟩
  | _ => simp [descriptor, Descriptor.admits]

/-! ## What is read -/

namespace Enumerated

variable {ε : Type} [Enumerated ε] {index : Nat}

theorem member_enumerated (n : (underlying ε).Native) :
    member ε index (.enumerated (typeName ε) ⟨underlying ε, n⟩) =
      (ofDiscriminant? n).elim (.error (.unknownMember (typeName ε) ⟨underlying ε, n⟩)) .ok := by
  rw [member, if_neg (not_not_intro rfl), Scalar.as?_mk]
  cases h : (ofDiscriminant? n : Option ε) <;> simp only [h, Option.elim]

/-- A value is read as a member if its discriminant is one of the type and belongs to the member. -/
theorem member_eq_ok_iff_exists {e : ε} :
    member ε index v = .ok e ↔
      ∃ n, v = .enumerated (typeName ε) ⟨underlying ε, n⟩ ∧ ofDiscriminant? n = some e := by
  cases v with
  | enumerated name x =>
    -- the name is asked first, then the kind, then the discriminant
    by_cases hname : name = typeName ε
    · subst hname
      cases hx : x.as? (underlying ε) with
      | none =>
        rw [member, if_neg (not_not_intro rfl), hx]
        refine iff_of_false nofun ?_
        rintro ⟨n, ⟨⟩, -⟩
        rw [Scalar.as?_mk] at hx
        cases hx
      | some n =>
        obtain rfl := Scalar.as?_eq_some_iff.mp hx
        rw [member_enumerated]
        cases hn : (ofDiscriminant? n : Option ε) with
        | none =>
          refine iff_of_false nofun ?_
          rintro ⟨n', ⟨⟩, he⟩
          exact nomatch hn.symm.trans he
        | some e' =>
          constructor
          · rintro ⟨⟩
            exact ⟨n, rfl, hn⟩
          · rintro ⟨n', ⟨⟩, he⟩
            exact congrArg Except.ok (Option.some.inj (hn.symm.trans he))
    · rw [member, if_pos hname]
      refine iff_of_false nofun ?_
      rintro ⟨n, ⟨⟩, -⟩
      exact hname rfl
  | _ => simp [member]

end Enumerated

namespace Arguments

variable {a : Arguments} {index : Nat}

theorem value_of_getElem? (h : a.values[index]? = some v) : a.value index = .ok v := by
  rw [value, h]

theorem scalar_eq_ok_iff (h : a.values[index]? = some v) {n : k.Native} :
    a.scalar k index = .ok n ↔ v = .ofNative k n := by
  rw [scalar, value_of_getElem? h, ← Value.native?_eq_some_iff]
  cases v with
  | scalar x =>
    simp only [bind, Except.bind, Value.native?]
    cases x.as? k <;> simp
  | _ => simp [bind, Except.bind, Value.native?]

theorem elements_eq_ok_iff {position : Nat} {vs : List Value} {xs : List k.Native} :
    elements k index position vs = .ok xs ↔ vs = xs.map (.ofNative k) := by
  induction vs generalizing position xs with
  | nil => cases xs <;> simp [elements]
  | cons v vs ih =>
    rw [elements]
    cases hv : v.native? k with
    | none =>
      refine iff_of_false nofun ?_
      cases xs with
      | nil => nofun
      | cons x xs =>
        intro h
        rw [Value.native?_eq_some_iff.mpr (List.cons.inj h).1] at hv
        cases hv
    | some n =>
      obtain rfl := Value.native?_eq_some_iff.mp hv
      -- the first element is read, and then the others are
      constructor
      · intro h
        cases hvs : elements k index (position + 1) vs with
        | error e =>
          rw [hvs] at h
          cases h
        | ok ys =>
          rw [hvs] at h
          cases h
          rw [ih.mp hvs]
          rfl
      · intro h
        cases xs with
        | nil => cases h
        | cons x xs =>
          obtain ⟨hx, hxs⟩ := List.cons.inj h
          cases hx
          show (elements k index (position + 1) vs).map _ = _
          rw [ih.mpr hxs]
          rfl

theorem vector_eq_ok_iff (h : a.values[index]? = some v) {xs : List k.Native} :
    a.vector k index = .ok xs ↔ v = .ofNatives k xs := by
  rw [vector, value_of_getElem? h]
  cases v with
  | vector vs =>
    rw [Value.ofNatives, Value.vector.injEq, ← elements_eq_ok_iff]
    rfl
  | _ => simp [bind, Except.bind, Value.ofNatives]

theorem array_eq_ok_iff (h : a.values[index]? = some v) {n : Nat}
    {xs : { xs : List k.Native // xs.length = n }} :
    a.array k n index = .ok xs ↔ v = .ofNatives k xs.val := by
  rw [array, ← vector_eq_ok_iff h]
  cases a.vector k index with
  | error e => exact iff_of_false nofun nofun
  | ok ys =>
    show (if h : ys.length = n then _ else _) = _ ↔ _
    rw [Except.ok.injEq]
    split
    · rw [Except.ok.injEq, Subtype.ext_iff]
    · -- elements of another number are those of no array of this length
      rename_i hlength
      refine iff_of_false nofun ?_
      rintro rfl
      exact hlength xs.property

theorem text_eq_ok_iff (h : a.values[index]? = some v) {s : String} :
    a.text index = .ok s ↔ v = .text s := by
  rw [text, value_of_getElem? h]
  cases v with
  | text t =>
    show Except.ok t = _ ↔ _
    simp
  | _ => simp [bind, Except.bind]

theorem callback_eq_ok_iff (h : a.values[index]? = some v) {name : String} :
    a.callback index = .ok name ↔ v = .callback name := by
  rw [callback, value_of_getElem? h]
  cases v with
  | callback t =>
    show Except.ok t = _ ↔ _
    simp
  | _ => simp [bind, Except.bind]

theorem member_of_getElem? {ε : Type} [Enumerated ε] (h : a.values[index]? = some v) :
    a.member ε index = Enumerated.member ε index v := by
  rw [member, value_of_getElem? h]
  rfl

/-! ## Both together -/

/-- The argument at a position, which has the value `v`, is judged alike by the declared types and
by those who read it. -/
structure Judged (a : Arguments) (index : Nat) (v : Value) : Prop where
  scalar : ∀ k, (Descriptor.scalar k).admits v = true ↔ ∃ n, a.scalar k index = .ok n
  vector : ∀ k, (Descriptor.vector (.scalar k)).admits v = true ↔ ∃ xs, a.vector k index = .ok xs
  array : ∀ k (n : Unsigned 64), (Descriptor.array (.scalar k) n).admits v = true ↔
    ∃ xs, a.array k n.val.toNat index = .ok xs
  text : Descriptor.text.admits v = true ↔ ∃ s, a.text index = .ok s
  callback : ∀ interface, (Descriptor.callback interface).admits v = true ↔
    ∃ name, a.callback index = .ok name
  /-- What is read as a member is acceptable. -/
  member : ∀ (ε : Type) [Enumerated ε] (e : ε), a.member ε index = .ok e →
    (Enumerated.descriptor ε).admits v = true
  /-- What is acceptable and not read as a member has a discriminant that belongs to none. -/
  unknown : ∀ (ε : Type) [Enumerated ε], (Enumerated.descriptor ε).admits v = true →
    ∃ n, v = .enumerated (Enumerated.typeName ε) ⟨Enumerated.underlying ε, n⟩ ∧
      ((∃ source, a.member ε index = .error source) ↔
        (Enumerated.ofDiscriminant? n : Option ε) = none) ∧
      ∀ source, a.member ε index = .error source →
        source = .unknownMember (Enumerated.typeName ε) ⟨Enumerated.underlying ε, n⟩

/-- All arguments are judged alike. -/
theorem judged (h : a.values[index]? = some v) : a.Judged index v := by
  constructor
  case scalar =>
    intro k
    simp only [Descriptor.admits_scalar_iff, scalar_eq_ok_iff h]
  case vector =>
    intro k
    simp only [Descriptor.admits_vector_iff, vector_eq_ok_iff h]
  case array =>
    intro k n
    simp only [Descriptor.admits_array_iff, array_eq_ok_iff h, Subtype.exists, exists_prop]
  case text => simp only [Descriptor.admits_text_iff, text_eq_ok_iff h]
  case callback =>
    intro interface
    simp only [Descriptor.admits_callback_iff, callback_eq_ok_iff h]
  case member =>
    intro ε _ e he
    rw [member_of_getElem? h, Enumerated.member_eq_ok_iff_exists] at he
    obtain ⟨n, hv, -⟩ := he
    exact Enumerated.admits_descriptor_iff.mpr ⟨n, hv⟩
  case unknown =>
    intro ε _ hadmits
    -- an acceptable value has the name and the kind of the type, so only its discriminant is left
    obtain ⟨n, rfl⟩ := Enumerated.admits_descriptor_iff.mp hadmits
    refine ⟨n, rfl, ?_⟩
    rw [member_of_getElem? h, Enumerated.member_enumerated]
    cases (Enumerated.ofDiscriminant? n : Option ε) with
    | none =>
      refine ⟨iff_of_true ⟨_, rfl⟩ rfl, ?_⟩
      intro source hsource
      exact (Except.error.inj hsource).symm
    | some e =>
      refine ⟨iff_of_false ?_ nofun, ?_⟩
      · rintro ⟨source, ⟨⟩⟩
      · rintro source ⟨⟩

end Arguments

end TargetBench
