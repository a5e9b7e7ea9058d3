import TargetBench.Proofs.Message.RoundTrip

/-!
# Values however they are spelled

An agent need not write a value the way a session writes it. Each value within a value, at whatever
depth, may be an object with its tag at any place, its members in any order and others among them,
or an array that begins with the tag. The tag may come after the parts it governs, so that the
decoder has to hold an object before it knows what it is. The text of such a document gives the
value all the same, and so do all other texts of the document.

## Main definitions

* `Heeds`: values that are decoded from every text of a document that spells them

## Main results

* `spellings_decode`: values are, and so are the arguments and the expected results of calls
-/

namespace TargetBench

/-- Values that are decoded from every text of every document that spells them, as long as the
document nests no deeper than a reader is ready to follow. -/
def Heeds (α : Type) [Wire α] (survives : α → Prop) (spelled : α → Json → Prop) : Prop :=
  ∀ x doc, survives x → spelled x doc → doc.depth ≤ nestingLimit →
    decodeText doc.compact = .ok x ∧
      ∀ s, Json.readText (Text.trim s) = some doc → decodeText s = .ok x

theorem Heeds.of_restores {α : Type} [Wire α] {survives : α → Prop} {spelled : α → Json → Prop}
    (h : ∀ {x doc}, survives x → spelled x doc → Decoder.Restores Wire.decode doc x) :
    Heeds α survives spelled := by
  intro x doc hx hdoc hdepth
  have hrestores := h hx hdoc
  constructor
  · exact hrestores.decodeText_compact hdepth
  · intro s hs
    exact hrestores.decodeText_eq hdepth hs

/-- **A value is decoded however it is spelled.** Every choice of a spelling at each value within a
value gives a text that is decoded as the value, if it nests no deeper than a reader is ready to
follow and the numbers of the value survive being written and read. The same holds for the arguments
and the expected results of a call. -/
theorem spellings_decode :
    Heeds Value Value.Survives Value.Spelled ∧ Heeds Call Call.Survives Call.Spelled := by
  constructor
  · apply Heeds.of_restores
    intro v doc hv hdoc
    exact (hdoc.restores hv false).held
  · apply Heeds.of_restores
    intro c doc hc hdoc
    exact hdoc.restores hc

/-- A sequence with its tag behind its elements, and a member that is passed over in front of them.
Of the elements one is an array, one an object with a member of another name, and one a sequence. -/
theorem spellings_decode_nested :
    let five : Scalar := ⟨.uint8, ⟨5, by decide, by decide⟩⟩
    let text : Json := .array [.ofText "string", .ofText "a"]
    let callback : Json :=
      .record [("name", .ofText "c"), ("kind", .ofText "callback"), ("note", .null)]
    let scalar : Json := .record [("value", five.toJson), ("kind", .ofText "scalar")]
    let inner : Json := .array [.ofText "vector", .array [scalar]]
    let doc : Json := .record [("note", .bool true), ("elements", .array [text, callback, inner]),
      ("kind", .ofText "vector")]
    decodeText doc.compact =
      .ok (Value.vector [.text "a", .callback "c", .vector [.scalar five]]) := by
  intro five text callback scalar inner doc
  have htext : Value.Spelled (.text "a") text := .text .array
  have hcallback : Value.Spelled (.callback "c") callback :=
    .callback (@Json.Tags.object _ _ _ [("note", .null)] (.swap _ _ _)
      (List.forall_mem_singleton.mpr (by decide)) (List.forall_mem_singleton.mpr .null))
  have hscalar : Value.Spelled (.scalar five) scalar :=
    .scalar (@Json.Tags.object _ _ _ [] (.swap _ _ _) nofun nofun)
  have hinner : Value.Spelled (.vector [.scalar five]) inner :=
    @Value.Spelled.vector [(.scalar five, scalar)] _ (List.forall_mem_singleton.mpr hscalar) .array
  have hparts : ∀ p ∈ [(Value.text "a", text), (.callback "c", callback),
      (.vector [.scalar five], inner)], p.1.Spelled p.2 :=
    List.forall_mem_cons.mpr ⟨htext, List.forall_mem_cons.mpr
      ⟨hcallback, List.forall_mem_singleton.mpr hinner⟩⟩
  have hdoc : Value.Spelled (.vector [.text "a", .callback "c", .vector [.scalar five]]) doc :=
    .vector hparts (@Json.Tags.object _ _ _ [("note", .bool true)] (List.reverse_perm _).symm
      (List.forall_mem_singleton.mpr (by decide)) (List.forall_mem_singleton.mpr (.bool true)))
  have hsurvives : Value.Survives (.vector [.text "a", .callback "c", .vector [.scalar five]]) :=
    .vector (List.forall_mem_cons.mpr ⟨.text "a", List.forall_mem_cons.mpr ⟨.callback "c",
      List.forall_mem_singleton.mpr (.vector (List.forall_mem_singleton.mpr (.scalar trivial)))⟩⟩)
  exact (spellings_decode.1 _ doc hsurvives hdoc (by decide)).1

end TargetBench
