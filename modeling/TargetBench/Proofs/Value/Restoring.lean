import TargetBench.Proofs.Json.Given
import TargetBench.Value.Wire

/-!
# Values and declared types in documents

A tagged document is restored shape by shape: the tag names the shape, and what else the document
gives are the parts. A sequence is restored because its elements are, which nest less deep.

## Main definitions

* `Scalar.Survives`, `Value.Survives`: values whose numbers survive being written and read
* `Value.Spelled`: all documents in which a value can be written

## Main results

* `Value.Spelled.restores`: values are restored from every document that spells them
* `Value.restores`, `Descriptor.restores`: values and declared types are restored
-/

namespace TargetBench

open Decoder (Restores)

/-! ## Scalars -/

namespace ScalarKind

/-- The kind of a scalar is restored in a held document too. -/
theorem heldEnumeration_restores (k : ScalarKind) :
    Restores Descriptor.decodeKind (.ofText k.name) k := by
  refine ⟨.text k.name, fun {budget} _ => ?_⟩
  cases budget <;> exact k.lookup_name

end ScalarKind

namespace Scalar

/-- A number among the scalars survives being written and read; what is no binary number always
does. -/
def Survives : Scalar → Prop
  | ⟨.float, x⟩ => Json.Survives Decoder.single (.ofSingle x) x
  | ⟨.double, x⟩ => Json.Survives Decoder.double (.ofDouble x) x
  | _ => True

theorem native_restores {x : Scalar} (h : x.Survives) :
    Restores x.kind.decodeNative (x.kind.toJson x.native) x.native := by
  obtain ⟨kind, x⟩ := x
  cases kind with
  | bool => exact .bool x
  | float => exact .single h
  | double => exact .double h
  | _ => exact .integer (by decide) (by decide) x

theorem restores {x : Scalar} (h : x.Survives) : Restores Scalar.decode x.toJson x := by
  have hx := native_restores h
  refine ⟨.record (by simpa using hx.legible), fun {budget} hdepth => ?_⟩
  obtain ⟨b, rfl, hpayload⟩ := Json.depth_record_le_iff.mp hdepth
  have hnative := hx.decode_eq (hpayload _ List.mem_cons_self)
  show (ScalarKind.names.lookup x.kind.name).bind _ = _
  rw [x.kind.lookup_name, Option.bind_some, hnative]
  rfl

end Scalar

/-! ## Values -/

namespace Value

/-- All numbers of a value survive being written and read. -/
inductive Survives : Value → Prop
  | scalar {x : Scalar} (h : x.Survives) : Survives (.scalar x)
  | enumerated {typeName : String} {x : Scalar} (h : x.Survives) : Survives (.enumerated typeName x)
  | vector {xs : List Value} (h : ∀ x ∈ xs, Survives x) : Survives (.vector xs)
  | text (s : String) : Survives (.text s)
  | callback (name : String) : Survives (.callback name)

/-- The value of a shape. -/
def ofShape (budget : Nat) (rest : Json) (shape : Shape) : Option Value :=
  if shape = .vector then do
    let f ← Fields.of? ["elements"] budget rest
    return vector (← f.items "elements" (ofSound true budget))
  else leafOfSound budget rest shape

theorem ofSound_succ (held : Bool) (budget : Nat) (doc : Json) :
    ofSound held (budget + 1) doc = (doc.untag? "kind").bind fun parts =>
      (Json.variant? shapes held parts.1).bind (ofShape budget parts.2) := rfl

/-- Documents that spell a value. Each of the values in it, at whatever depth, may be written in
another way. -/
inductive Spelled : Value → Json → Prop
  | scalar {x : Scalar} {doc : Json} (h : Json.Tags "scalar" [("value", x.toJson)] doc) :
      Spelled (.scalar x) doc
  | enumerated {typeName : String} {x : Scalar} {doc : Json}
      (h : Json.Tags "enum" [("type_name", .ofText typeName), ("value", x.toJson)] doc) :
      Spelled (.enumerated typeName x) doc
  | vector {parts : List (Value × Json)} {doc : Json} (hparts : ∀ p ∈ parts, Spelled p.1 p.2)
      (h : Json.Tags "vector" [("elements", .array (parts.map Prod.snd))] doc) :
      Spelled (.vector (parts.map Prod.fst)) doc
  | text {s : String} {doc : Json} (h : Json.Tags "string" [("value", .ofText s)] doc) :
      Spelled (.text s) doc
  | callback {name : String} {doc : Json} (h : Json.Tags "callback" [("name", .ofText name)] doc) :
      Spelled (.callback name) doc

/-- A sequence is restored if its elements are. -/
theorem restores_vector {parts : List (Value × Json)} {doc : Json}
    (hparts : ∀ p ∈ parts, Restores (ofSound true) p.2 p.1)
    (hdoc : Json.Tags "vector" [("elements", .array (parts.map Prod.snd))] doc) (held : Bool) :
    Restores (ofSound held) doc (.vector (parts.map Prod.fst)) := by
  have helements : (Json.array (parts.map Prod.snd)).Legible :=
    .array (List.forall_mem_map.mpr fun p hp => (hparts p hp).legible)
  refine .tagged (ofSound_succ held) ["elements"]
    (show shapes.lookup "vector" = some .vector from rfl) hdoc rfl (by decide)
    (by simpa using helements) fun b rest given hof hlookup hfit => ?_
  have hgiven : given.lookup "elements" = some (.array (parts.map Prod.snd)) := hlookup "elements"
  obtain ⟨b', rfl, hdepths⟩ := Json.depth_array_le_iff.mp (hfit.depth_le hgiven)
  -- a sequence hands the budget of its members down to its elements, which need one less
  have hmap : (parts.map Prod.snd).mapM (ofSound true (b' + 1)) = some (parts.map Prod.fst) := by
    rw [mapM_eq_some_iff, List.map_map, List.map_map]
    exact List.map_congr_left fun p hp => (hparts p hp).decode_eq
      ((hdepths _ (List.mem_map_of_mem hp)).trans (Nat.le_succ b'))
  rw [ofShape, if_pos rfl, hof]
  simp only [Option.bind_eq_bind, Option.bind_some, Fields.items, hgiven, hmap]
  rfl

/-- A value is restored from every document that spells it. -/
theorem Spelled.restores {v : Value} {doc : Json} (hdoc : v.Spelled doc) (hv : v.Survives)
    (held : Bool) : Restores (ofSound held) doc v := by
  induction hdoc generalizing held with
  | scalar h =>
    cases hv with | scalar hv =>
    have hx := Scalar.restores hv
    refine .tagged (ofSound_succ held) ["value"]
      (show shapes.lookup "scalar" = some .scalar from rfl) h rfl (by decide)
      (by simpa using hx.legible) fun b rest given hof hlookup hfit => ?_
    show leafOfSound b rest .scalar = _
    simp only [leafOfSound, hof, Option.bind_eq_bind, Option.bind_some,
      hfit.required_eq "value" (hlookup "value") hx]
    rfl
  | @enumerated typeName x _ h =>
    cases hv with | enumerated hv =>
    have hx := Scalar.restores hv
    have hname := Restores.text typeName
    refine .tagged (ofSound_succ held) ["type_name", "value"]
      (show shapes.lookup "enum" = some .enumerated from rfl) h rfl (by decide)
      (by simpa using ⟨hname.legible, hx.legible⟩) fun b rest given hof hlookup hfit => ?_
    show leafOfSound b rest .enumerated = _
    simp only [leafOfSound, hof, Option.bind_eq_bind, Option.bind_some,
      hfit.required_eq "type_name" (hlookup "type_name") hname,
      hfit.required_eq "value" (hlookup "value") hx]
    rfl
  | @vector parts _ _ h ih =>
    generalize hxs : parts.map Prod.fst = xs at hv
    cases hv with | vector hv =>
    rw [← hxs]
    refine restores_vector (fun p hp => ih p hp (hv _ ?_) true) h held
    rw [← hxs]
    exact List.mem_map_of_mem hp
  | @text s _ h =>
    have hs := Restores.text s
    refine .tagged (ofSound_succ held) ["value"]
      (show shapes.lookup "string" = some .text from rfl) h rfl (by decide)
      (by simpa using hs.legible) fun b rest given hof hlookup hfit => ?_
    show leafOfSound b rest .text = _
    simp only [leafOfSound, hof, Option.bind_eq_bind, Option.bind_some,
      hfit.required_eq "value" (hlookup "value") hs]
    rfl
  | @callback name _ h =>
    have hname := Restores.text name
    refine .tagged (ofSound_succ held) ["name"]
      (show shapes.lookup "callback" = some .callback from rfl) h rfl (by decide)
      (by simpa using hname.legible) fun b rest given hof hlookup hfit => ?_
    show leafOfSound b rest .callback = _
    simp only [leafOfSound, hof, Option.bind_eq_bind, Option.bind_some,
      hfit.required_eq "name" (hlookup "name") hname]
    rfl

/-- The document of a value spells it. -/
theorem spelled_toJson {v : Value} (h : v.Survives) : v.Spelled v.toJson := by
  induction h with
  | scalar h => exact .scalar (.record _ _)
  | enumerated h => exact .enumerated (.record _ _)
  | @vector xs _ ih =>
    have hdocs : ∀ p ∈ xs.map (fun x => (x, x.toJson)), Spelled p.1 p.2 :=
      List.forall_mem_map.mpr ih
    have hvector := Spelled.vector hdocs (.record _ _)
    simpa [toJson, listToJson_eq, Function.comp_def] using hvector
  | text s => exact .text (.record _ _)
  | callback name => exact .callback (.record _ _)

theorem ofSound_restores {v : Value} (h : v.Survives) (held : Bool) :
    Restores (ofSound held) v.toJson v :=
  (spelled_toJson h).restores h held

theorem restores {v : Value} (h : v.Survives) : Restores Wire.decode (Wire.toJson v) v :=
  (ofSound_restores h false).held

end Value

/-! ## Declared types -/

namespace Descriptor

/-- The declared type of a shape. -/
def ofShape (budget : Nat) (rest : Json) (shape : Shape) : Option Descriptor :=
  if shape = .vector then do
    let f ← Fields.of? ["element"] budget rest
    return vector (← f.required "element" fun _ => ofSound true budget)
  else if shape = .array then do
    let f ← Fields.of? ["element", "len"] budget rest
    return array (← f.required "element" fun _ => ofSound true budget)
      (← f.required "len" Decoder.integer)
  else leafOfSound budget rest shape

theorem ofSound_succ (held : Bool) (budget : Nat) (doc : Json) :
    ofSound held (budget + 1) doc = (doc.untag? "kind").bind fun parts =>
      (Json.variant? shapes held parts.1).bind (ofShape budget parts.2) := rfl

theorem ofSound_restores (t : Descriptor) (held : Bool) : Restores (ofSound held) t.toJson t := by
  induction t generalizing held with
  | scalar kind =>
    have hkind := kind.heldEnumeration_restores
    refine .tagged (ofSound_succ held) ["scalar"]
      (show shapes.lookup "scalar" = some .scalar from rfl) (.record _ _) rfl (by decide)
      (by simpa using hkind.legible) fun b rest given hof hlookup hfit => ?_
    show leafOfSound b _ .scalar = _
    simp only [leafOfSound, hof, Option.bind_eq_bind, Option.bind_some,
      hfit.required_eq "scalar" (hlookup "scalar") hkind]
    rfl
  | enumerated typeName underlying =>
    have hname := Restores.text typeName
    have hkind := underlying.heldEnumeration_restores
    refine .tagged (ofSound_succ held) ["type_name", "underlying"]
      (show shapes.lookup "enum" = some .enumerated from rfl) (.record _ _) rfl (by decide)
      (by simpa using ⟨hname.legible, hkind.legible⟩) fun b rest given hof hlookup hfit => ?_
    show leafOfSound b _ .enumerated = _
    simp only [leafOfSound, hof, Option.bind_eq_bind, Option.bind_some,
      hfit.required_eq "type_name" (hlookup "type_name") hname,
      hfit.required_eq "underlying" (hlookup "underlying") hkind]
    rfl
  | vector element ih =>
    have helement := ih true
    refine .tagged (ofSound_succ held) ["element"]
      (show shapes.lookup "vector" = some .vector from rfl) (.record _ _) rfl (by decide)
      (by simpa using helement.legible) fun b rest given hof hlookup hfit => ?_
    have hgiven : given.lookup "element" = some element.toJson := hlookup "element"
    have hinner : Fields.required ⟨b, given⟩ "element" (fun _ => ofSound true b) = some element :=
      Fields.required_of_lookup "element" hgiven (helement.decode_eq (hfit.depth_le hgiven))
    rw [ofShape, if_pos rfl, hof]
    simp only [Option.bind_eq_bind, Option.bind_some, hinner]
    rfl
  | array element length ih =>
    have helement := ih true
    have hlength := Restores.integer (by decide) (by decide) length
    refine .tagged (ofSound_succ held) ["element", "len"]
      (show shapes.lookup "array" = some .array from rfl) (.record _ _) rfl (by decide)
      (by simpa using ⟨helement.legible, hlength.legible⟩) fun b rest given hof hlookup hfit => ?_
    have hgiven : given.lookup "element" = some element.toJson := hlookup "element"
    have hinner : Fields.required ⟨b, given⟩ "element" (fun _ => ofSound true b) = some element :=
      Fields.required_of_lookup "element" hgiven (helement.decode_eq (hfit.depth_le hgiven))
    rw [ofShape, if_neg nofun, if_pos rfl, hof]
    simp only [Option.bind_eq_bind, Option.bind_some, hinner,
      hfit.required_eq "len" (hlookup "len") hlength]
    rfl
  | text =>
    refine .tagged (ofSound_succ held) []
      (show shapes.lookup "string" = some .text from rfl) (.record _ _) rfl (by decide) (by simp)
      fun b rest given hof _ _ => ?_
    show leafOfSound b rest .text = _
    -- an array that is left would have given no fields
    cases rest with
    | array items =>
      cases items with
      | nil => rfl
      | cons x xs => cases hof
    | _ => rfl
  | callback interface =>
    have hinterface := Restores.text interface
    refine .tagged (ofSound_succ held) ["interface"]
      (show shapes.lookup "callback" = some .callback from rfl) (.record _ _) rfl (by decide)
      (by simpa using hinterface.legible) fun b rest given hof hlookup hfit => ?_
    show leafOfSound b _ .callback = _
    simp only [leafOfSound, hof, Option.bind_eq_bind, Option.bind_some,
      hfit.required_eq "interface" (hlookup "interface") hinterface]
    rfl

theorem restores (t : Descriptor) : Restores Wire.decode (Wire.toJson t) t :=
  (ofSound_restores t false).held

end Descriptor

end TargetBench
