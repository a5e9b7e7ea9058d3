import TargetBench.Json.Tagged
import TargetBench.Proofs.Collection.Keyed
import TargetBench.Proofs.Json.Restoring

/-!
# Documents that give parts

A record can be written in many ways: as an object with its members in any order and members of
other names among them, or as the array of the values of its first fields. A tagged document can be
written in as many: the tag stands at any place among the members, or first in the array. Whichever
way is taken, the decoder finds the same value under the name of every field. So what is restored
from one of these documents is restored from all of them.

## Main definitions

* `Json.Gives`: documents that give the fields of a record
* `Json.Tags`: documents that give a tag and the fields of the shape that it names

## Main results

* `Json.Gives.of?_eq`: the fields are found, whatever the document looks like
* `Json.Tags.untag?_eq`: the tag is found, and what is left gives the fields
* `Decoder.Restores.given`, `Decoder.Restores.tagged`: a value is restored from every such document
-/

namespace TargetBench

namespace Json

variable {names : List String} {fields : List (String × Json)} {tag : String} {doc : Json}

/-- Documents that give values for fields of a record: an object in which they stand in any order
and with members of other names, or the array of them if they are the first fields. -/
inductive Gives (names : List String) (fields : List (String × Json)) : Json → Prop
  | object {members further : List (String × Json)} (hmembers : members.Perm (fields ++ further))
      (hnames : ∀ m ∈ further, m.1 ∉ names) (hlegible : ∀ m ∈ further, m.2.Legible) :
      Gives names fields (.record members)
  | array (hnames : fields.map Prod.fst <+: names) :
      Gives names fields (.array (fields.map Prod.snd))

/-- Documents that give a tag and values for all fields of the shape that it names: an object in
which they stand in any order and with members of other names, or the array of the tag and them. -/
inductive Tags (tag : String) (fields : List (String × Json)) : Json → Prop
  | object {members further : List (String × Json)}
      (hmembers : members.Perm (("kind", .ofText tag) :: (fields ++ further)))
      (hnames : ∀ m ∈ further, m.1 ∉ "kind" :: fields.map Prod.fst)
      (hlegible : ∀ m ∈ further, m.2.Legible) : Tags tag fields (.record members)
  | array : Tags tag fields (.array (.ofText tag :: fields.map Prod.snd))

theorem Gives.record (names : List String) (fields : List (String × Json)) :
    Gives names fields (.record fields) :=
  @Gives.object names fields fields [] (by simp) nofun nofun

theorem Tags.record (tag : String) (fields : List (String × Json)) :
    Tags tag fields (.record (("kind", .ofText tag) :: fields)) :=
  @Tags.object tag fields _ [] (by simp) nofun nofun

/-! ## Fields of a record -/

theorem Gives.legible (h : Gives names fields doc) (hfields : ∀ m ∈ fields, m.2.Legible) :
    doc.Legible := by
  cases h with
  | object hmembers hnames hlegible =>
    refine .record fun m hm => ?_
    rcases List.mem_append.mp (hmembers.subset hm) with hfield | hfurther
    · exact hfields m hfield
    · exact hlegible m hfurther
  | array hnames => exact .array (List.forall_mem_map.mpr hfields)

theorem Gives.depth_le (h : Gives names fields doc) {budget : Nat} (hdepth : doc.depth ≤ budget) :
    ∃ b, budget = b + 1 ∧ ∀ m ∈ fields, m.2.depth ≤ b := by
  cases h with
  | object hmembers hnames hlegible =>
    obtain ⟨b, rfl, hparts⟩ := depth_record_le_iff.mp hdepth
    refine ⟨b, rfl, fun m hm => hparts m ?_⟩
    exact hmembers.symm.subset (List.mem_append_left _ hm)
  | array hnames =>
    obtain ⟨b, rfl, hparts⟩ := depth_array_le_iff.mp hdepth
    exact ⟨b, rfl, fun m hm => hparts m.2 (List.mem_map_of_mem hm)⟩

/-- The fields that a document gives are found in it. -/
theorem Gives.of?_eq (h : Gives names fields doc) (hnodup : names.Nodup)
    (hnames : (fields.map Prod.fst).Sublist names) (budget : Nat) :
    ∃ given, given.Perm fields ∧ Fields.of? names budget doc = some ⟨budget, given⟩ := by
  cases h with
  | @object members further hmembers hfurther hlegible =>
    -- of all members, those that no field has the name of are passed over
    have hkept : (fields.filter fun m => names.contains m.1) = fields := by
      rw [List.filter_eq_self]
      exact fun m hm => List.contains_iff_mem.mpr (hnames.subset (List.mem_map_of_mem hm))
    have hpassed : (further.filter fun m => names.contains m.1) = [] := by
      rw [List.filter_eq_nil_iff]
      exact fun m hm hcontains => hfurther m hm (List.contains_iff_mem.mp hcontains)
    have hperm : (members.filter fun m => names.contains m.1).Perm fields := by
      have hfiltered := hmembers.filter fun m => names.contains m.1
      rwa [List.filter_append, hkept, hpassed, List.append_nil] at hfiltered
    refine ⟨_, hperm, Fields.of?_known ?_ budget⟩
    exact ((hperm.map Prod.fst).nodup_iff).mpr (hnames.nodup hnodup)
  | array hfirst =>
    -- the names of the first fields meet the items in their order
    obtain ⟨rest, hrest⟩ := hfirst
    have hzip : names.zip (fields.map Prod.snd) = fields := by
      have happend : (fields.map Prod.fst ++ rest).zip (fields.map Prod.snd ++ []) =
          (fields.map Prod.fst).zip (fields.map Prod.snd) ++ rest.zip [] :=
        List.zip_append (by simp)
      rw [List.append_nil, List.zip_nil_right, List.append_nil, hrest] at happend
      exact happend.trans (List.zip_of_prod rfl rfl).symm
    have hlength : (fields.map Prod.snd).length ≤ names.length := by
      rw [← hrest]
      simp
    refine ⟨fields, .refl _, ?_⟩
    rw [Fields.of?, Fields.given?, if_pos hlength, hzip, Option.map_some]

/-! ## Tags -/

theorem Tags.legible (h : Tags tag fields doc) (hfields : ∀ m ∈ fields, m.2.Legible) :
    doc.Legible := by
  have htag : (Json.ofText tag).Legible := .text tag
  cases h with
  | object hmembers hnames hlegible =>
    refine .record fun m hm => ?_
    rcases List.mem_cons.mp (hmembers.subset hm) with rfl | hothers
    · exact htag
    · rcases List.mem_append.mp hothers with hfield | hfurther
      · exact hfields m hfield
      · exact hlegible m hfurther
  | array => exact .array (List.forall_mem_cons.mpr ⟨htag, List.forall_mem_map.mpr hfields⟩)

theorem Tags.depth_le (h : Tags tag fields doc) {budget : Nat} (hdepth : doc.depth ≤ budget) :
    ∃ b, budget = b + 1 ∧ ∀ m ∈ fields, m.2.depth ≤ b := by
  cases h with
  | object hmembers hnames hlegible =>
    obtain ⟨b, rfl, hparts⟩ := depth_record_le_iff.mp hdepth
    refine ⟨b, rfl, fun m hm => hparts m ?_⟩
    exact hmembers.symm.subset (List.mem_cons_of_mem _ (List.mem_append_left _ hm))
  | array =>
    obtain ⟨b, rfl, hparts⟩ := depth_array_le_iff.mp hdepth
    exact ⟨b, rfl, fun m hm => hparts m.2 (List.mem_cons_of_mem _ (List.mem_map_of_mem hm))⟩

/-- The tag is taken from an object that has one member of the tag's name, at whatever place. -/
theorem untag?_of_perm {tagName : String} {tag : Json} {members others : List (String × Json)}
    (hmembers : members.Perm ((tagName, tag) :: others)) (hothers : tagName ∉ others.map Prod.fst) :
    ∃ rest, rest.Perm others ∧
      untag? tagName (Json.record members) = some (tag, Json.record rest) := by
  have hfalse : ∀ m ∈ others, (some m.1 == some tagName) = false := fun m hm =>
    beq_false_of_ne fun heq => hothers (Option.some.inj heq ▸ List.mem_map_of_mem hm)
  have htags : (members.filter fun m => some m.1 == some tagName) = [(tagName, tag)] := by
    have hfiltered := hmembers.filter fun m => some m.1 == some tagName
    have hnone : (others.filter fun m => some m.1 == some tagName) = [] :=
      List.filter_eq_nil_iff.mpr fun m hm => Bool.eq_false_iff.mp (hfalse m hm)
    rw [List.filter_cons_of_pos (by simp), hnone] at hfiltered
    exact List.perm_singleton.mp hfiltered
  have hrest : (members.filter fun m => !(some m.1 == some tagName)).Perm others := by
    have hfiltered := hmembers.filter fun m => !(some m.1 == some tagName)
    have hall : (others.filter fun m => !(some m.1 == some tagName)) = others :=
      List.filter_eq_self.mpr fun m hm => by rw [hfalse m hm, Bool.not_false]
    rwa [List.filter_cons_of_neg (by simp), hall] at hfiltered
  refine ⟨_, hrest, ?_⟩
  have hpart : (members.map fun m => (some m.1, m.2)).partition
      (fun m : Quoted × Json => m.1 == some tagName) =
        ([(some tagName, tag)],
          (members.filter fun m => !(some m.1 == some tagName)).map fun m => (some m.1, m.2)) := by
    rw [List.partition_eq_filter_filter, List.filter_map, List.filter_map]
    exact Prod.ext (congrArg (List.map _) htags) rfl
  rw [Json.record, untag?]
  -- `untag?` takes members apart by a pattern, and `hpart` by projections, which is the same
  generalize hparts : List.partition _ _ = parts
  obtain rfl := hparts.symm.trans hpart
  rfl

/-- The tag is found in a tagged document, and what is left gives the fields. -/
theorem Tags.untag?_eq (h : Tags tag fields doc) (hkind : "kind" ∉ fields.map Prod.fst) :
    ∃ rest, doc.untag? "kind" = some (.ofText tag, rest) ∧
      Gives (fields.map Prod.fst) fields rest := by
  cases h with
  | @object members further hmembers hnames hlegible =>
    have hothers : "kind" ∉ (fields ++ further).map Prod.fst := by
      rw [List.map_append, List.mem_append, not_or]
      refine ⟨hkind, fun hmem => ?_⟩
      obtain ⟨m, hm, hname⟩ := List.mem_map.mp hmem
      exact hnames m hm (hname ▸ List.mem_cons_self)
    obtain ⟨rest, hrest, huntag⟩ := untag?_of_perm hmembers hothers
    refine ⟨_, huntag, .object hrest (fun m hm hmem => ?_) hlegible⟩
    exact hnames m hm (List.mem_cons_of_mem _ hmem)
  | array => exact ⟨_, rfl, .array List.prefix_rfl⟩

end Json

/-! ## Restoring -/

section Restoring

variable {α : Type} {doc : Json} {fields : List (String × Json)} {x : α}

theorem Fields.lookup_eq {names : List String} {given : List (String × Json)} (hnodup : names.Nodup)
    (hnames : (fields.map Prod.fst).Sublist names) (hperm : given.Perm fields) (name : String) :
    given.lookup name = fields.lookup name :=
  (lookup_perm hperm.symm (hnames.nodup hnodup) name).symm

/-- A record is restored from every document that gives its fields, if it can be built from them in
whatever order. -/
theorem Decoder.Restores.given {names : List String} {build : Fields → Option α}
    (hdoc : Json.Gives names fields doc) (hfields : Json.Members names fields)
    (hnodup : names.Nodup)
    (hbuild : ∀ b given, (∀ name, given.lookup name = fields.lookup name) →
      Fields.Fit ⟨b, given⟩ → build ⟨b, given⟩ = some x) :
    Restores (Decoder.record names build) doc x := by
  refine ⟨hdoc.legible hfields.legible, fun {budget} hdepth => ?_⟩
  obtain ⟨b, rfl, hparts⟩ := hdoc.depth_le hdepth
  obtain ⟨given, hperm, hof⟩ := hdoc.of?_eq hnodup hfields.sublist b
  rw [Decoder.record, hof]
  exact hbuild b given (Fields.lookup_eq hnodup hfields.sublist hperm)
    fun m hm => hparts m (hperm.subset hm)

/-- A tagged document is restored if, as the shape that its tag names, it is restored from what the
document gives for the fields of the shape. -/
theorem Decoder.Restores.tagged {σ : Type} {shapes : List (String × σ)} {held : Bool}
    {d : Decoder α} {ofShape : Nat → Json → σ → Option α}
    (hd : ∀ budget doc, d (budget + 1) doc = (doc.untag? "kind").bind fun parts =>
      (Json.variant? shapes held parts.1).bind (ofShape budget parts.2))
    (names : List String) {tag : String} {shape : σ} (hshape : shapes.lookup tag = some shape)
    (hdoc : Json.Tags tag fields doc) (hnames : fields.map Prod.fst = names)
    (hnodup : ("kind" :: names).Nodup) (hlegible : ∀ m ∈ fields, m.2.Legible)
    (h : ∀ b rest given, Fields.of? names b rest = some ⟨b, given⟩ →
      (∀ name, given.lookup name = fields.lookup name) → Fields.Fit ⟨b, given⟩ →
        ofShape b rest shape = some x) :
    Restores d doc x := by
  subst hnames
  obtain ⟨hkind, hnodup⟩ := List.nodup_cons.mp hnodup
  refine ⟨hdoc.legible hlegible, fun {budget} hdepth => ?_⟩
  obtain ⟨b, rfl, hparts⟩ := hdoc.depth_le hdepth
  obtain ⟨rest, huntag, hrest⟩ := hdoc.untag?_eq hkind
  obtain ⟨given, hperm, hof⟩ := hrest.of?_eq hnodup (List.Sublist.refl _) b
  have hvariant : Json.variant? shapes held (.ofText tag) = some shape := hshape
  rw [hd, huntag, Option.bind_some, hvariant, Option.bind_some]
  exact h b rest given hof (Fields.lookup_eq hnodup (List.Sublist.refl _) hperm)
    fun m hm => hparts m (hperm.subset hm)

end Restoring

end TargetBench
