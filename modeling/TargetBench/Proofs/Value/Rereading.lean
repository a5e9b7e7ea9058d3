import TargetBench.Proofs.Json.Rereading
import TargetBench.Proofs.Value.Restoring

/-!
# Values that are read again

What a decoder makes of a tagged document, however it was spelled, is written in a document that
nests no deeper. So a value that was decoded can be written and is not too deep to be decoded again.
It is decoded again as the value that it was if its numbers survive, and as nothing that is equal to
it if one of them does not.

## Main results

* `Value.depth_le_of_ofSound`, `Descriptor.depth_le_of_ofSound`: what was decoded nests no deeper
  than what it was decoded from
* `Value.requires`: a value is decoded again only if its numbers survive
-/

namespace TargetBench

open Decoder (Requires Shallow)

/-! ## Scalars -/

namespace Scalar

theorem depth_toJson (x : Scalar) : x.toJson.depth = 1 := by
  obtain ⟨kind, x⟩ := x
  have hleaf : (kind.toJson x).depth = 0 := by
    cases kind with
    | float => exact Json.depth_ofBinary _ x
    | double => exact Json.depth_ofBinary _ x
    | _ => rfl
  show max (kind.toJson x).depth 0 + 1 = 1
  rw [hleaf]
  rfl

theorem depth_pos_of_decode {budget : Nat} {doc : Json} {x : Scalar}
    (h : decode budget doc = some x) : 0 < doc.depth := by
  unfold decode at h
  split at h
  · exact Nat.succ_pos _
  · cases h

theorem shallow : Shallow (Wire.decode : Decoder Scalar) Wire.toJson 1 :=
  fun _ _ x hbudget _ => x.depth_toJson.trans_le hbudget

theorem beq_self {x : Scalar} (h : x.Survives) : (x == x) = true := by
  obtain ⟨kind, x⟩ := x
  rw [show (Scalar.mk kind x == ⟨kind, x⟩) = kind.same x x from dif_pos rfl]
  cases kind with
  | float => exact Decoder.beq_self_of_survives rfl h
  | double => exact Decoder.beq_self_of_survives rfl h
  | _ => exact beq_self_eq_true _

theorem lettered (x : Scalar) : x.toJson.Lettered := by
  obtain ⟨kind, x⟩ := x
  refine .record (List.forall_mem_singleton.mpr ?_)
  cases kind with
  | bool => exact .bool x
  | float => exact .ofBinary _ x
  | double => exact .ofBinary _ x
  | _ => exact .number _

/-- A scalar is decoded again only if it survives. -/
theorem requires (x : Scalar) : Requires Scalar.decode x.toJson x x.Survives := by
  intro budget y hy hsame
  cases budget with
  | zero => cases hy
  | succ b =>
    obtain ⟨kind, x⟩ := x
    -- the name of the kind is read as the kind, so that only the number is open
    have hy' : (ScalarKind.names.lookup kind.name).bind (fun k =>
        (k.decodeNative b (kind.toJson x)).bind fun native => some ⟨k, native⟩) = some y := hy
    rw [kind.lookup_name, Option.bind_some] at hy'
    obtain ⟨native, hnative, hy'⟩ := Option.bind_eq_some_iff.mp hy'
    cases hy'
    have hx : kind.same native x = true := by
      rwa [show (Scalar.mk kind native == ⟨kind, x⟩) = kind.same native x from dif_pos rfl] at hsame
    cases kind with
    | float => exact Requires.single x hnative hx
    | double => exact Requires.double x hnative hx
    | _ => trivial

end Scalar

/-! ## Tagged documents -/

/-- A tagged document that is written nests no deeper than the one that was read, if each of its
parts nests less deep. -/
theorem Json.depth_tagged_le {doc tag rest : Json} {tagName : String}
    (h : doc.untag? tagName = some (tag, rest)) (written : String) {fields : List (String × Json)}
    (hfields : ∀ m ∈ fields, m.2.depth < doc.depth) :
    (Json.record (("kind", .ofText written) :: fields)).depth ≤ doc.depth := by
  have hpos := Json.depth_pos_of_untag? h
  exact Json.depth_record_le hpos (List.forall_mem_cons.mpr ⟨hpos, hfields⟩)

/-! ## Values -/

namespace Value

/-- What a value of a shape is made of: a scalar, elements, or nothing but texts. -/
theorem ofShape_cases {b : Nat} {rest : Json} {shape : Shape} {v : Value}
    (h : ofShape b rest shape = some v) :
    (∃ names f x, Fields.of? names b rest = some f ∧ f.required "value" Scalar.decode = some x ∧
      (v = .scalar x ∨ ∃ typeName, v = .enumerated typeName x)) ∨
    (∃ f xs, Fields.of? ["elements"] b rest = some f ∧
      f.items "elements" (ofSound true b) = some xs ∧ v = .vector xs) ∨
    (∃ s, v = .text s) ∨ ∃ name, v = .callback name := by
  cases shape with
  | vector =>
    obtain ⟨f, hof, h⟩ := Option.bind_eq_some_iff.mp ((if_pos rfl).symm.trans h)
    obtain ⟨xs, hxs, h⟩ := Option.bind_eq_some_iff.mp h
    exact .inr (.inl ⟨f, xs, hof, hxs, (Option.some.inj h).symm⟩)
  | scalar =>
    obtain ⟨f, hof, h⟩ := Option.bind_eq_some_iff.mp ((if_neg nofun).symm.trans h)
    obtain ⟨x, hx, h⟩ := Option.bind_eq_some_iff.mp h
    exact .inl ⟨_, f, x, hof, hx, .inl (Option.some.inj h).symm⟩
  | enumerated =>
    obtain ⟨f, hof, h⟩ := Option.bind_eq_some_iff.mp ((if_neg nofun).symm.trans h)
    obtain ⟨typeName, -, h⟩ := Option.bind_eq_some_iff.mp h
    obtain ⟨x, hx, h⟩ := Option.bind_eq_some_iff.mp h
    exact .inl ⟨_, f, x, hof, hx, .inr ⟨typeName, (Option.some.inj h).symm⟩⟩
  | text =>
    obtain ⟨f, -, h⟩ := Option.bind_eq_some_iff.mp ((if_neg nofun).symm.trans h)
    obtain ⟨s, -, h⟩ := Option.bind_eq_some_iff.mp h
    exact .inr (.inr (.inl ⟨s, (Option.some.inj h).symm⟩))
  | callback =>
    obtain ⟨f, -, h⟩ := Option.bind_eq_some_iff.mp ((if_neg nofun).symm.trans h)
    obtain ⟨name, -, h⟩ := Option.bind_eq_some_iff.mp h
    exact .inr (.inr (.inr ⟨name, (Option.some.inj h).symm⟩))

/-- What was decoded nests no deeper than what it was decoded from. -/
theorem depth_le_of_ofSound {held : Bool} {budget : Nat} {doc : Json} {v : Value}
    (h : ofSound held budget doc = some v) : v.toJson.depth ≤ doc.depth := by
  induction budget generalizing held doc v with
  | zero => cases h
  | succ b ih =>
    rw [ofSound_succ] at h
    obtain ⟨⟨tag, rest⟩, huntag, h⟩ := Option.bind_eq_some_iff.mp h
    obtain ⟨shape, -, h⟩ := Option.bind_eq_some_iff.mp h
    have hpos := Json.depth_pos_of_untag? huntag
    have hrest := Json.depth_le_of_untag? huntag
    rcases ofShape_cases h with ⟨names, f, x, hof, hx, hv⟩ | ⟨f, xs, hof, hxs, rfl⟩ |
      ⟨s, rfl⟩ | ⟨name, rfl⟩
    · -- a scalar is written as an object without brackets in it, and was read from one
      obtain ⟨value, hlookup, hvalue⟩ := Option.bind_eq_some_iff.mp hx
      have hscalar : x.toJson.depth < doc.depth := by
        rw [x.depth_toJson]
        exact (Nat.succ_lt_succ (Scalar.depth_pos_of_decode hvalue)).trans_le
          ((Fields.depth_lt_of_lookup hof hlookup).trans_le hrest)
      rcases hv with rfl | ⟨typeName, rfl⟩
      · exact Json.depth_tagged_le huntag _ (List.forall_mem_singleton.mpr hscalar)
      · exact Json.depth_tagged_le huntag _ (List.forall_mem_cons.mpr
          ⟨hpos, List.forall_mem_singleton.mpr hscalar⟩)
    · rw [Fields.items] at hxs
      split at hxs
      · rename_i items hlookup
        have hlt := Fields.depth_lt_of_lookup hof hlookup
        -- every element nests no deeper than the item that it was decoded from
        have helements : (Json.array (xs.map toJson)).depth ≤ (Json.array items).depth := by
          obtain ⟨n, hn, hitems⟩ :=
            Json.depth_array_le_iff.mp (Nat.le_refl (Json.array items).depth)
          rw [hn]
          exact Decoder.depth_array_le_of_mapM hxs fun item hitem _ hdecode =>
            (ih hdecode).trans (hitems item hitem)
        rw [toJson, listToJson_eq]
        refine Json.depth_tagged_le huntag _ (List.forall_mem_singleton.mpr ?_)
        exact helements.trans_lt (hlt.trans_le hrest)
      · cases hxs
    · exact Json.depth_tagged_le huntag _ (List.forall_mem_singleton.mpr hpos)
    · exact Json.depth_tagged_le huntag _ (List.forall_mem_singleton.mpr hpos)

/-- A property of all values, which a sequence has if its elements have it. -/
@[elab_as_elim]
theorem inductionOn {motive : Value → Prop} (v : Value) (scalar : ∀ x, motive (.scalar x))
    (enumerated : ∀ typeName x, motive (.enumerated typeName x))
    (vector : ∀ xs, (∀ x ∈ xs, motive x) → motive (.vector xs)) (text : ∀ s, motive (.text s))
    (callback : ∀ name, motive (.callback name)) : motive v :=
  @Value.rec motive (fun xs => ∀ x ∈ xs, motive x) scalar enumerated vector text callback nofun
    (fun _ _ hx hxs => List.forall_mem_cons.mpr ⟨hx, hxs⟩) v

theorem lettered (v : Value) : v.toJson.Lettered := by
  induction v using inductionOn with
  | scalar x =>
    exact .record (List.forall_mem_cons.mpr
      ⟨.text _, List.forall_mem_singleton.mpr x.lettered⟩)
  | enumerated typeName x =>
    exact .record (List.forall_mem_cons.mpr ⟨.text _, List.forall_mem_cons.mpr
      ⟨.text typeName, List.forall_mem_singleton.mpr x.lettered⟩⟩)
  | vector xs ih =>
    rw [toJson, listToJson_eq]
    exact .record (List.forall_mem_cons.mpr
      ⟨.text _, List.forall_mem_singleton.mpr (.array (List.forall_mem_map.mpr ih))⟩)
  | text s =>
    exact .record (List.forall_mem_cons.mpr ⟨.text _, List.forall_mem_singleton.mpr (.text s)⟩)
  | callback name =>
    exact .record (List.forall_mem_cons.mpr ⟨.text _, List.forall_mem_singleton.mpr (.text name)⟩)

theorem sameAll_eq (xs ys : List Value) : sameAll xs ys = (xs == ys) := by
  induction xs generalizing ys with
  | nil => cases ys <;> rfl
  | cons x xs ih =>
    cases ys with
    | nil => rfl
    | cons y ys => exact congrArg (x.same y && ·) (ih ys)

/-- A value whose numbers survive is equal to itself. -/
theorem beq_self {v : Value} (h : v.Survives) : (v == v) = true := by
  induction h with
  | scalar h => exact Scalar.beq_self h
  | enumerated h => exact Bool.and_eq_true_iff.mpr ⟨beq_self_eq_true _, Scalar.beq_self h⟩
  | @vector xs _ ih => exact (sameAll_eq xs xs).trans (Decoder.beq_self_of_forall ih)
  | text s => exact beq_self_eq_true s
  | callback name => exact beq_self_eq_true name

/-- A value is decoded again only if its numbers survive. -/
theorem ofSound_requires (v : Value) (held : Bool) :
    Requires (ofSound held) v.toJson v v.Survives := by
  induction v using inductionOn generalizing held with
  | scalar x =>
    intro budget y hy hsame
    cases budget with
    | zero => cases hy
    | succ b =>
      have hy' : ((Scalar.decode b x.toJson).bind fun x' => some (.scalar x')) = some y := hy
      obtain ⟨x', hx, hy'⟩ := Option.bind_eq_some_iff.mp hy'
      cases hy'
      exact .scalar (x.requires hx hsame)
  | enumerated typeName x =>
    intro budget y hy hsame
    cases budget with
    | zero => cases hy
    | succ b =>
      have hy' : ((Scalar.decode b x.toJson).bind fun x' => some (.enumerated typeName x')) =
        some y := hy
      obtain ⟨x', hx, hy'⟩ := Option.bind_eq_some_iff.mp hy'
      cases hy'
      exact .enumerated (x.requires hx (Bool.and_eq_true_iff.mp hsame).2)
  | vector xs ih =>
    intro budget y hy hsame
    cases budget with
    | zero => cases hy
    | succ b =>
      have hy' : (((listToJson xs).mapM (ofSound true b)).bind fun ys => some (.vector ys)) =
        some y := hy
      obtain ⟨ys, hys, hy'⟩ := Option.bind_eq_some_iff.mp hy'
      cases hy'
      rw [listToJson_eq] at hys
      have hlist : Requires (Decoder.list (ofSound true)) _ xs _ := .list fun x hx => ih x hx true
      exact .vector (hlist (show Decoder.list (ofSound true) (b + 1) _ = some ys from hys)
        ((sameAll_eq ys xs).symm.trans hsame))
  | text s => exact fun _ _ _ _ => .text s
  | callback name => exact fun _ _ _ _ => .callback name

/-- What is decoded from a sound document nests no deeper than it may. -/
theorem shallow : Shallow (Wire.decode : Decoder Value) Wire.toJson 0 :=
  .held depth_le_of_ofSound

theorem requires (v : Value) : Requires Wire.decode (Wire.toJson v) v v.Survives :=
  (v.ofSound_requires false).held

end Value

/-! ## Declared types -/

namespace Descriptor

/-- A declared type of a shape has an element or is written with texts only. -/
theorem ofShape_cases {b : Nat} {rest : Json} {shape : Shape} {t : Descriptor}
    (h : ofShape b rest shape = some t) :
    (∃ names f element, Fields.of? names b rest = some f ∧
      f.required "element" (fun _ => ofSound true b) = some element ∧
      (t = .vector element ∨ ∃ length, t = .array element length)) ∨ t.toJson.depth = 1 := by
  cases shape with
  | vector =>
    obtain ⟨f, hof, h⟩ := Option.bind_eq_some_iff.mp ((if_pos rfl).symm.trans h)
    obtain ⟨element, helement, h⟩ := Option.bind_eq_some_iff.mp h
    exact .inl ⟨_, f, element, hof, helement, .inl (Option.some.inj h).symm⟩
  | array =>
    obtain ⟨f, hof, h⟩ := Option.bind_eq_some_iff.mp
      ((if_pos rfl).symm.trans ((if_neg nofun).symm.trans h))
    obtain ⟨element, helement, h⟩ := Option.bind_eq_some_iff.mp h
    obtain ⟨length, -, h⟩ := Option.bind_eq_some_iff.mp h
    exact .inl ⟨_, f, element, hof, helement, .inr ⟨length, (Option.some.inj h).symm⟩⟩
  | scalar =>
    obtain ⟨f, -, h⟩ := Option.bind_eq_some_iff.mp (show leafOfSound b rest .scalar = _ from h)
    obtain ⟨kind, -, h⟩ := Option.bind_eq_some_iff.mp h
    cases h
    exact .inr rfl
  | enumerated =>
    obtain ⟨f, -, h⟩ := Option.bind_eq_some_iff.mp (show leafOfSound b rest .enumerated = _ from h)
    obtain ⟨typeName, -, h⟩ := Option.bind_eq_some_iff.mp h
    obtain ⟨underlying, -, h⟩ := Option.bind_eq_some_iff.mp h
    cases h
    exact .inr rfl
  | text =>
    have h : leafOfSound b rest .text = some t := h
    simp only [leafOfSound] at h
    split at h
    · cases h
    · cases h
      exact .inr rfl
  | callback =>
    obtain ⟨f, -, h⟩ := Option.bind_eq_some_iff.mp (show leafOfSound b rest .callback = _ from h)
    obtain ⟨interface, -, h⟩ := Option.bind_eq_some_iff.mp h
    cases h
    exact .inr rfl

/-- What was decoded nests no deeper than what it was decoded from. -/
theorem depth_le_of_ofSound {held : Bool} {budget : Nat} {doc : Json} {t : Descriptor}
    (h : ofSound held budget doc = some t) : t.toJson.depth ≤ doc.depth := by
  induction budget generalizing held doc t with
  | zero => cases h
  | succ b ih =>
    rw [ofSound_succ] at h
    obtain ⟨⟨tag, rest⟩, huntag, h⟩ := Option.bind_eq_some_iff.mp h
    obtain ⟨shape, -, h⟩ := Option.bind_eq_some_iff.mp h
    have hpos := Json.depth_pos_of_untag? huntag
    rcases ofShape_cases h with ⟨names, f, element, hof, helement, ht⟩ | hleaf
    · -- the element is decoded from a part of what is left without the tag
      obtain ⟨value, hlookup, hvalue⟩ := Option.bind_eq_some_iff.mp helement
      have hdepth : element.toJson.depth < doc.depth :=
        (ih hvalue).trans_lt ((Fields.depth_lt_of_lookup hof hlookup).trans_le
          (Json.depth_le_of_untag? huntag))
      rcases ht with rfl | ⟨length, rfl⟩
      · exact Json.depth_tagged_le huntag _ (List.forall_mem_singleton.mpr hdepth)
      · exact Json.depth_tagged_le huntag _ (List.forall_mem_cons.mpr
          ⟨hdepth, List.forall_mem_singleton.mpr hpos⟩)
    · rw [hleaf]
      exact hpos

/-- What is decoded from a sound document nests no deeper than it may. -/
theorem shallow : Shallow (Wire.decode : Decoder Descriptor) Wire.toJson 0 :=
  .held depth_le_of_ofSound

end Descriptor

end TargetBench
