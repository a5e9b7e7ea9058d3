import TargetBench.Proofs.Collection.Keyed
import TargetBench.Proofs.Json.Nesting

/-!
# What is decoded from a text that was written

The text of a value is read as the document of the value even if the document holds numerals that
stand for no numbers, or null in the place of a number. What is then decoded tells whether the value
survived: nothing equal to the value is decoded unless each of its numbers is read as it was.
Equality compares numbers as numbers, so that the two zeros are equal; but a zero is read with its
sign.

## Main definitions

* `Decoder.Requires`: what has to hold if a value equal to the given one is decoded
* `Rereads`: values that are decoded again from their own texts if and only if they survive

## Main results

* `Decoder.Requires.single`, `Decoder.Requires.double`: only numbers that survive are decoded again
* `Rereads.of_requires`: a type is decoded again if its decoder restores and requires
-/

namespace TargetBench

/-! ## Documents that are written -/

namespace Json

theorem Lettered.record {members : List (String × Json)} (h : ∀ m ∈ members, m.2.Lettered) :
    (Json.record members).Lettered := by
  refine .object ?_ ?_
  · rw [List.forall_mem_map]
    exact fun _ _ => rfl
  · rwa [List.forall_mem_map]

theorem Lettered.ofBinary {f : BinaryFormat} (layout : Layout) (x : Binary f) :
    (Json.ofBinary layout x).Lettered := by
  unfold Json.ofBinary
  split
  · exact .number _
  · exact .null

end Json

/-- Every field of a record that is written is found in its document. -/
theorem Fields.lookup_of_record {names : List String} {b : Nat} {members : List (String × Json)}
    {f : Fields} (h : of? names b (Json.record members) = some f) {name : String}
    (hname : name ∈ names) : f.given.lookup name = members.lookup name := by
  rw [of?, given?_record] at h
  split at h
  · cases h
    rw [lookup_filter members names.contains name, if_pos (List.contains_iff_mem.mpr hname)]
  · cases h

/-! ## What decoding requires -/

namespace Decoder

variable {α : Type} [BEq α]

/-- Nothing equal to a value is decoded from a document unless something holds. -/
def Requires (d : Decoder α) (doc : Json) (x : α) (p : Prop) : Prop :=
  ∀ ⦃budget y⦄, d budget doc = some y → (y == x) = true → p

variable {d : Decoder α} {encode : α → Json} {f : Fields} {name : String} {doc : Json} {x : α}
  {p : Prop}

theorem Requires.required (h : d.Requires doc x p) (hlookup : f.given.lookup name = some doc)
    {y : α} (hy : f.required name d = some y) (hsame : (y == x) = true) : p := by
  rw [Fields.required, hlookup] at hy
  exact h hy hsame

theorem Requires.defaulted (h : d.Requires doc x p) (hlookup : f.given.lookup name = some doc)
    {default y : α} (hy : f.defaulted name d default = some y) (hsame : (y == x) = true) : p := by
  rw [Fields.defaulted, hlookup] at hy
  exact h hy hsame

theorem Requires.optional {o o' : Option α} {p : α → Prop}
    (h : ∀ x ∈ o, d.Requires (encode x) x (p x)) (hlookup : f.given.lookup name = o.map encode)
    (ho : f.optional name d = some o') (hsame : (o' == o) = true) : ∀ x ∈ o, p x := by
  rintro x rfl
  rw [Fields.optional, hlookup, Option.map_some] at ho
  split at ho
  · rename_i heq
    cases heq
  · cases ho
    cases hsame
  · rename_i heq
    obtain ⟨y, hy, rfl⟩ := Option.map_eq_some_iff.mp ho
    exact h x rfl (Option.some.inj heq ▸ hy) hsame

theorem Requires.held (h : d.Requires doc x p) : (Decoder.held d).Requires doc x p :=
  fun _ _ hy => h (Option.ite_none_right_eq_some.mp hy).2

theorem beq_self_of_forall {xs : List α} (h : ∀ x ∈ xs, (x == x) = true) : (xs == xs) = true := by
  induction xs with
  | nil => rfl
  | cons x xs ih =>
    obtain ⟨hx, hxs⟩ := List.forall_mem_cons.mp h
    exact Bool.and_eq_true_iff.mpr ⟨hx, ih hxs⟩

/-- If a list is decoded again, each of its elements is. -/
theorem Requires.list {xs : List α} {p : α → Prop} (h : ∀ x ∈ xs, d.Requires (encode x) x (p x)) :
    (Decoder.list d).Requires (.array (xs.map encode)) xs (∀ x ∈ xs, p x) := by
  intro budget ys hys hsame
  cases budget with
  | zero => cases hys
  | succ b =>
    have hmap : (xs.map encode).map (d b) = ys.map some := mapM_eq_some_iff.mp hys
    clear hys
    induction xs generalizing ys with
    | nil => exact nofun
    | cons x xs ih =>
      cases ys with
      | nil => cases hmap
      | cons y ys =>
        obtain ⟨hy, hmap⟩ := List.cons.inj hmap
        obtain ⟨hx, hrest⟩ := Bool.and_eq_true_iff.mp hsame
        obtain ⟨hfirst, hothers⟩ := List.forall_mem_cons.mp h
        exact List.forall_mem_cons.mpr ⟨hfirst hy hx, ih hothers hrest hmap⟩

/-! ## Numbers -/

/-- Numbers that are equal are the same, or both zero. -/
theorem eq_or_zero_of_same {g : BinaryFormat} {x y : Binary g} (h : (y == x) = true) :
    y = x ∨ ∃ negative place, x = .finite negative place ∧ place.val = 0 := by
  cases y with
  | nan => cases h
  | infinite s =>
    cases x with
    | infinite t =>
      have hsign : s = t := of_decide_eq_true h
      exact .inl (by rw [hsign])
    | _ => cases h
  | finite s place =>
    cases x with
    | finite t place' =>
      obtain ⟨hplace, hsign⟩ := Bool.and_eq_true_iff.mp (h : Binary.same _ _ = true)
      have hplace : place = place' := Fin.ext (of_decide_eq_true hplace)
      rcases Bool.or_eq_true_iff.mp hsign with hsign | hzero
      · exact .inl (by rw [of_decide_eq_true hsign, hplace])
      · exact .inr ⟨t, place', rfl, hplace ▸ of_decide_eq_true hzero⟩
    | _ => cases h

theorem eq_infinite_of_any_same {g : BinaryFormat} {negative : Bool} {o : Option (Binary g)}
    (h : o.any (· == .infinite negative) = true) : o = some (.infinite negative) := by
  cases o with
  | none => cases h
  | some x =>
    rcases eq_or_zero_of_same h with rfl | ⟨_, _, hfinite, -⟩
    · rfl
    · cases hfinite

/-- Only a number that survives is decoded again from what was written for it. -/
theorem Requires.ofBinary {g : BinaryFormat} {layout : Layout} {d : Decoder (Binary g)}
    (number? : Numeral → Option (Binary g)) (hnumber : ∀ budget n, d budget (.number n) = number? n)
    (hnull : ∀ budget, d budget .null = none)
    (hzero : ∀ negative place, place.val = 0 →
      number? ⟨negative, 0, [.zero], none⟩ = some (.finite negative place)) (x : Binary g) :
    d.Requires (.ofBinary layout x) x (Json.Survives d (.ofBinary layout x) x) := by
  intro budget y hy hsame
  unfold Json.Survives
  rw [(Json.Lettered.ofBinary layout x).readText_compact, Option.bind_some]
  unfold Json.ofBinary at hy ⊢
  cases hn : layout.numeral? x with
  | none =>
    rw [hn] at hy
    cases (hnull budget).symm.trans hy
  | some n =>
    rw [hn] at hy
    have hread : number? n = some y := (hnumber budget n).symm.trans hy
    show d 0 (.number n) = some x
    rw [hnumber]
    rcases eq_or_zero_of_same hsame with rfl | ⟨negative, place, rfl, hplace⟩
    · exact hread
    · -- a zero is written with its sign
      rw [Layout.numeral?, if_pos hplace] at hn
      rw [← Option.some.inj hn]
      exact hzero negative place hplace

/-- A number that survives is equal to itself. -/
theorem beq_self_of_survives {g : BinaryFormat} {layout : Layout} {d : Decoder (Binary g)}
    (hnull : d 0 .null = none) {x : Binary g} (h : Json.Survives d (.ofBinary layout x) x) :
    (x == x) = true := by
  cases x with
  | nan => exact absurd h (Json.not_survives_of_numeral? hnull rfl)
  | infinite negative => exact decide_eq_true rfl
  | finite negative place =>
    show Binary.same _ _ = true
    simp [Binary.same]

/-- A number that is a zero of a sign. -/
def isZeroOf (negative : Bool) {g : BinaryFormat} : Binary g → Bool
  | .finite s place => s == negative && place.val = 0
  | _ => false

theorem eq_of_any_isZeroOf {g : BinaryFormat} {negative : Bool} {o : Option (Binary g)}
    (h : o.any (isZeroOf negative) = true) (place : Fin g.finiteCount) (hplace : place.val = 0) :
    o = some (.finite negative place) := by
  cases o with
  | none => cases h
  | some x =>
    cases x with
    | finite s place' =>
      obtain ⟨hsign, hzero⟩ := Bool.and_eq_true_iff.mp (h : (s == negative && _) = true)
      rw [eq_of_beq hsign, Fin.ext ((of_decide_eq_true hzero).trans hplace.symm)]
    | _ => cases h

theorem Requires.single (x : Binary32) : Decoder.single.Requires (Json.ofSingle x) x
    (Json.Survives Decoder.single (.ofSingle x) x) := by
  have hzero : ∀ negative, (Numeral.single? ⟨negative, 0, [.zero], none⟩).any
      (isZeroOf negative) = true := by
    decide +kernel
  exact Requires.ofBinary (d := Decoder.single) Numeral.single? (fun _ _ => rfl) (fun _ => rfl)
    (fun negative place hplace => eq_of_any_isZeroOf (hzero negative) place hplace) x

theorem Requires.double (x : Binary64) : Decoder.double.Requires (Json.ofDouble x) x
    (Json.Survives Decoder.double (.ofDouble x) x) := by
  have hzero : ∀ negative, (Numeral.double? ⟨negative, 0, [.zero], none⟩).any
      (isZeroOf negative) = true := by
    decide +kernel
  exact Requires.ofBinary (d := Decoder.double) Numeral.double? (fun _ _ => rfl) (fun _ => rfl)
    (fun negative place hplace => eq_of_any_isZeroOf (hzero negative) place hplace) x

end Decoder

/-! ## Texts -/

/-- A value that a text is decoded as is decoded from its own text again, or something equal to it
is, if and only if the value survives. If it survives, it is the value itself that is decoded. -/
def Rereads (α : Type) [Wire α] [BEq α] (survives : α → Prop) (s : String) : Prop :=
  ∀ x : α, decodeText s = .ok x →
    ((∃ y, decodeText (encodeText x) = .ok y ∧ (y == x) = true) ↔ survives x) ∧
      (survives x → decodeText (encodeText x) = .ok x)

section Texts

variable {α : Type} [Wire α] {s : String} {x : α}

/-- What is decoded from a text is decoded from the document of the text. -/
theorem exists_document_of_decodeText (h : decodeText s = .ok x) :
    ∃ doc, Json.readText (Text.trim s) = some doc ∧ Wire.decode nestingLimit doc = some x := by
  rw [decodeText] at h
  split at h
  · cases h
  · split at h
    · rename_i hread
      cases h
      exact Option.bind_eq_some_iff.mp hread
    · cases h

/-- A value that survives is decoded again, whatever text it was decoded from. -/
theorem decodeText_encodeText_of_decodeText
    (hshallow : Decoder.Shallow (Wire.decode : Decoder α) Wire.toJson nestingLimit)
    (hrestores : Decoder.Restores Wire.decode (Wire.toJson x) x) (h : decodeText s = .ok x) :
    decodeText (encodeText x) = .ok x := by
  obtain ⟨doc, -, hdecode⟩ := exists_document_of_decodeText h
  exact decodeText_encodeText hrestores (hshallow (Nat.le_refl _) hdecode)

variable [BEq α]

theorem Rereads.of_requires {survives : α → Prop}
    (hshallow : Decoder.Shallow (Wire.decode : Decoder α) Wire.toJson nestingLimit)
    (hrestores : ∀ x, survives x → Decoder.Restores Wire.decode (Wire.toJson x) x)
    (hself : ∀ x, survives x → (x == x) = true) (hlettered : ∀ x : α, (Wire.toJson x).Lettered)
    (hrequires : ∀ x : α, Decoder.Requires Wire.decode (Wire.toJson x) x (survives x))
    (s : String) : Rereads α survives s := by
  intro x hs
  have hagain (hx : survives x) : decodeText (encodeText x) = .ok x :=
    decodeText_encodeText_of_decodeText hshallow (hrestores x hx) hs
  refine ⟨⟨?_, fun hx => ⟨x, hagain hx, hself x hx⟩⟩, hagain⟩
  rintro ⟨y, hy, hsame⟩
  obtain ⟨doc, hread, hdecode⟩ := exists_document_of_decodeText hy
  rw [encodeText, Json.trim_compact, (hlettered x).readText_compact] at hread
  cases hread
  exact hrequires x hdecode hsame

/-- If everything survives, everything is decoded again. -/
theorem Rereads.of_restores [ReflBEq α]
    (hshallow : Decoder.Shallow (Wire.decode : Decoder α) Wire.toJson nestingLimit)
    (hrestores : ∀ x : α, Decoder.Restores Wire.decode (Wire.toJson x) x) (s : String) :
    Rereads α (fun _ => True) s := by
  intro x hs
  have hagain := decodeText_encodeText_of_decodeText hshallow (hrestores x) hs
  exact ⟨iff_of_true ⟨x, hagain, beq_self_eq_true x⟩ trivial, fun _ => hagain⟩

end Texts

end TargetBench
