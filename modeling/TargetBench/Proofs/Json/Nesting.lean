import TargetBench.Json.Tagged
import TargetBench.Proofs.Json.Restoring

/-!
# How deep decoded values nest

A value is written in one way and may have been read in another. The document that is written nests
no deeper than the one that was read, where the decoder follows the whole document: a part of a
value comes from a part of the document. A field that is left out has a default, which is written
although nothing was read for it; so a decoder of records keeps within its budget only if the budget
leaves room for the defaults.

## Main definitions

* `Decoder.Shallow`: decoders whose values nest no deeper than the brackets that may be opened

## Main results

* `Json.depth_le_of_sound`: a document that can be held nests no deeper than it may
* `Fields.depth_lt_of_lookup`, `Json.depth_le_of_untag?`: the parts of a document nest less deep
* `Decoder.Shallow.list`, `Decoder.Shallow.required`, …: what is decoded from parts nests as deep
  as the parts may
-/

namespace TargetBench

/-! ## Parts of documents -/

namespace Json

variable {doc tag rest : Json} {tagName : String}

/-- A document that can be held nests no deeper than it may. -/
theorem depth_le_of_sound {budget : Nat} (h : doc.sound budget = true) : doc.depth ≤ budget := by
  induction budget generalizing doc with
  | zero => cases doc <;> first | exact Nat.zero_le _ | cases h
  | succ b ih =>
    cases doc with
    | array items =>
      rw [sound, itemsSound_iff] at h
      exact depth_array_le_iff.mpr ⟨b, rfl, fun x hx => ih (h x hx)⟩
    | object members =>
      rw [sound, membersSound_iff] at h
      exact depth_object_le_iff.mpr ⟨b, rfl, fun m hm => ih (h m hm).2⟩
    | _ => exact Nat.zero_le _

theorem depth_lt_array {items : List Json} {x : Json} (h : x ∈ items) :
    x.depth < (Json.array items).depth := by
  obtain ⟨b, hb, hitems⟩ := depth_array_le_iff.mp (Nat.le_refl (Json.array items).depth)
  exact hb ▸ Nat.lt_succ_of_le (hitems x h)

theorem depth_lt_object {members : List (Quoted × Json)} {m : Quoted × Json} (h : m ∈ members) :
    m.2.depth < (Json.object members).depth := by
  obtain ⟨b, hb, hmembers⟩ := depth_object_le_iff.mp (Nat.le_refl (Json.object members).depth)
  exact hb ▸ Nat.lt_succ_of_le (hmembers m h)

theorem depth_record_le {members : List (String × Json)} {n : Nat} (hpos : 0 < n)
    (h : ∀ m ∈ members, m.2.depth < n) : (Json.record members).depth ≤ n := by
  obtain ⟨b, rfl⟩ := Nat.exists_eq_add_of_lt hpos
  exact depth_record_le_iff.mpr ⟨b, by omega, fun m hm => by have := h m hm; omega⟩

/-- A tagged document is an array or an object. -/
theorem depth_pos_of_untag? (h : doc.untag? tagName = some (tag, rest)) : 0 < doc.depth := by
  cases doc with
  | array items => exact Nat.succ_pos _
  | object members => exact Nat.succ_pos _
  | _ => cases h

/-- Without its tag, a document nests no deeper than with it. -/
theorem depth_le_of_untag? (h : doc.untag? tagName = some (tag, rest)) :
    rest.depth ≤ doc.depth := by
  cases doc with
  | array items =>
    cases items with
    | nil => cases h
    | cons x xs =>
      cases h
      exact Nat.succ_le_succ (Nat.le_max_right _ _)
  | object members =>
    rw [untag?, List.partition_eq_filter_filter] at h
    dsimp only at h
    split at h
    · cases h
      -- what is left are some of the members
      obtain ⟨b, hb, hmembers⟩ := depth_object_le_iff.mp (Nat.le_refl (Json.object members).depth)
      exact depth_object_le_iff.mpr ⟨b, hb, fun m hm => hmembers m (List.mem_filter.mp hm).1⟩
    · cases h
  | _ => cases h

end Json

namespace Fields

variable {names : List String} {budget : Nat} {doc value : Json} {f : Fields} {name : String}

theorem budget_of_of? (h : of? names budget doc = some f) : f.budget = budget := by
  obtain ⟨given, -, rfl⟩ := Option.map_eq_some_iff.mp h
  rfl

/-- What is among the named parts of a document is a part of it. -/
theorem depth_lt_of_mem_given? {given : List (String × Json)} (h : given? names doc = some given)
    (hmem : (name, value) ∈ given) : value.depth < doc.depth := by
  cases doc with
  | array items =>
    rw [given?] at h
    split at h
    · cases h
      exact Json.depth_lt_array (List.of_mem_zip hmem).2
    · cases h
  | object members =>
    rw [given?] at h
    obtain ⟨named, hnamed, h⟩ := Option.bind_eq_some_iff.mp h
    dsimp only at h
    split at h
    · cases h
      -- a part that has a name is the value of a member
      have hsome : some (name, value) ∈ named.map some :=
        List.mem_map_of_mem (List.mem_filter.mp hmem).1
      rw [← mapM_eq_some_iff.mp hnamed] at hsome
      obtain ⟨m, hm, hvalue⟩ := List.mem_map.mp hsome
      obtain ⟨_, -, hpair⟩ := Option.map_eq_some_iff.mp hvalue
      cases hpair
      exact Json.depth_lt_object hm
    · cases h
  | _ => cases h

/-- What a document gives for a field nests less deep than the document. -/
theorem depth_lt_of_lookup (h : of? names budget doc = some f)
    (hlookup : f.given.lookup name = some value) : value.depth < doc.depth := by
  obtain ⟨given, hgiven, rfl⟩ := Option.map_eq_some_iff.mp h
  obtain ⟨before, after, hsplit, -⟩ := List.lookup_eq_some_iff.mp hlookup
  have hmem : (name, value) ∈ given := by
    rw [show given = _ from hsplit]
    simp
  exact depth_lt_of_mem_given? hgiven hmem

end Fields

/-! ## Decoders -/

namespace Decoder

variable {α : Type} {d : Decoder α} {encode : α → Json} {least : Nat} {f : Fields}
  {name : String}

/-- What a record is built from. -/
theorem exists_fields_of_record {names : List String} {build : Fields → Option α} {budget : Nat}
    {doc : Json} {x : α} (h : Decoder.record names build budget doc = some x) :
    ∃ f, budget = f.budget + 1 ∧ Fields.of? names f.budget doc = some f ∧ build f = some x := by
  cases budget with
  | zero => cases h
  | succ b =>
    obtain ⟨f, hof, hbuild⟩ := Option.bind_eq_some_iff.mp h
    obtain rfl := Fields.budget_of_of? hof
    exact ⟨f, rfl, hof, hbuild⟩

/-- A decoder that makes no value whose document nests deeper than the brackets that it may open, if
it may open at least a number of them. -/
def Shallow (d : Decoder α) (encode : α → Json) (least : Nat) : Prop :=
  ∀ ⦃budget doc x⦄, least ≤ budget → d budget doc = some x → (encode x).depth ≤ budget

theorem Shallow.mono (h : d.Shallow encode least) {least' : Nat} (hle : least ≤ least') :
    d.Shallow encode least' := fun _ _ _ hbudget => h (hle.trans hbudget)

theorem Shallow.of_depth_eq_zero (h : ∀ x, (encode x).depth = 0) : d.Shallow encode least := by
  intro budget doc x _ _
  rw [h]
  exact Nat.zero_le budget

/-- A list nests one deeper than its elements, each of which is decoded from an item. -/
theorem depth_array_le_of_mapM {g : Json → Option α} {items : List Json} {xs : List α} {n : Nat}
    (hxs : items.mapM g = some xs)
    (h : ∀ item ∈ items, ∀ x, g item = some x → (encode x).depth ≤ n) :
    (Json.array (xs.map encode)).depth ≤ n + 1 := by
  have hmap : items.map g = xs.map some := mapM_eq_some_iff.mp hxs
  refine Json.depth_array_le_iff.mpr ⟨n, rfl, List.forall_mem_map.mpr fun x hx => ?_⟩
  obtain ⟨item, hmem, hitem⟩ := List.mem_map.mp (hmap ▸ List.mem_map_of_mem hx : some x ∈ _)
  exact h item hmem x hitem

theorem Shallow.list (h : d.Shallow encode least) :
    (Decoder.list d).Shallow (fun xs => .array (xs.map encode)) (least + 1) := by
  intro budget doc xs hleast hxs
  obtain ⟨b, rfl⟩ : ∃ b, budget = b + 1 := ⟨budget - 1, by omega⟩
  cases doc with
  | array items =>
    exact depth_array_le_of_mapM hxs fun _ _ _ hitem => h (Nat.le_of_succ_le_succ hleast) hitem
  | _ => cases hxs

/-- What is decoded from a document that can be held nests no deeper than it may, if it nests no
deeper than the document. -/
theorem Shallow.held (h : ∀ {budget doc x}, d budget doc = some x → (encode x).depth ≤ doc.depth) :
    (Decoder.held d).Shallow encode 0 := by
  intro budget doc x _ hx
  obtain ⟨hsound, hx⟩ := Option.ite_none_right_eq_some.mp hx
  exact (h hx).trans (Json.depth_le_of_sound hsound)

theorem Shallow.required (h : d.Shallow encode least) (hleast : least ≤ f.budget) {x : α}
    (hx : f.required name d = some x) : (encode x).depth ≤ f.budget := by
  obtain ⟨doc, -, hdoc⟩ := Option.bind_eq_some_iff.mp hx
  exact h hleast hdoc

theorem Shallow.defaulted (h : d.Shallow encode least) (hleast : least ≤ f.budget) {default x : α}
    (hdefault : (encode default).depth ≤ f.budget) (hx : f.defaulted name d default = some x) :
    (encode x).depth ≤ f.budget := by
  rw [Fields.defaulted] at hx
  split at hx
  · cases hx
    exact hdefault
  · exact h hleast hx

/-- A list that is empty if it is left out. -/
theorem Shallow.defaulted_nil (h : d.Shallow encode least) (hleast : least < f.budget)
    {xs : List α} (hxs : f.defaulted name (Decoder.list d) [] = some xs) :
    (Json.array (xs.map encode)).depth ≤ f.budget := by
  have hempty : (Json.array (([] : List α).map encode)).depth ≤ f.budget :=
    Nat.zero_lt_of_lt hleast
  exact h.list.defaulted hleast hempty hxs

theorem Shallow.optional (h : d.Shallow encode least) (hleast : least ≤ f.budget) {o : Option α}
    (ho : f.optional name d = some o) : ∀ x ∈ o, (encode x).depth ≤ f.budget := by
  rintro x rfl
  rw [Fields.optional] at ho
  split at ho
  · cases ho
  · cases ho
  · obtain ⟨y, hy, hxy⟩ := Option.map_eq_some_iff.mp ho
    cases hxy
    exact h hleast hy

end Decoder

end TargetBench
