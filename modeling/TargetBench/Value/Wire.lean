import TargetBench.Json.Tagged
import TargetBench.Value.Descriptor

/-!
# Documents of values and declared types

A scalar is an object whose only member is named for the kind. Values and declared types are
tagged documents: the member `kind` names the shape.

## Main definitions

* `Wire Scalar`, `Wire ScalarKind`, `Wire Value`, `Wire Descriptor`
-/

namespace TargetBench

namespace ScalarKind

/-- The document of a native value. -/
def toJson : (k : ScalarKind) → k.Native → Json
  | bool, x => .bool x
  | int8, x => .ofInt x.val
  | uint8, x => .ofInt x.val
  | int16, x => .ofInt x.val
  | uint16, x => .ofInt x.val
  | int32, x => .ofInt x.val
  | uint32, x => .ofInt x.val
  | int64, x => .ofInt x.val
  | uint64, x => .ofInt x.val
  | float, x => .ofSingle x
  | double, x => .ofDouble x

/-- The native value of a document. -/
def decodeNative : (k : ScalarKind) → Decoder k.Native
  | bool => Decoder.bool
  | int8 => Decoder.integer
  | uint8 => Decoder.integer
  | int16 => Decoder.integer
  | uint16 => Decoder.integer
  | int32 => Decoder.integer
  | uint32 => Decoder.integer
  | int64 => Decoder.integer
  | uint64 => Decoder.integer
  | float => Decoder.single
  | double => Decoder.double

instance : Wire ScalarKind where
  toJson k := .ofText k.name
  decode := Decoder.enumeration names

end ScalarKind

namespace Scalar

/-- The document of a scalar: an object whose only member is named for the kind. -/
def toJson (x : Scalar) : Json := .record [(x.kind.name, x.kind.toJson x.native)]

/-- The scalar of a document. -/
def decode : Decoder Scalar
  | budget + 1, .object [(some name, payload)] => do
    let kind ← ScalarKind.names.lookup name
    let native ← kind.decodeNative budget payload
    return ⟨kind, native⟩
  | _, _ => none

instance : Wire Scalar := ⟨toJson, decode⟩

end Scalar

namespace Value

/-- The shapes of values. -/
inductive Shape where
  | scalar
  | enumerated
  | vector
  | text
  | callback
deriving DecidableEq

/-- The shapes by their tags, in their order. -/
def shapes : List (String × Shape) :=
  [("scalar", .scalar), ("enum", .enumerated), ("vector", .vector), ("string", .text),
    ("callback", .callback)]

mutual

/-- The document of a value. -/
def toJson : Value → Json
  | scalar x => .record [("kind", .ofText "scalar"), ("value", x.toJson)]
  | enumerated typeName x =>
    .record [("kind", .ofText "enum"), ("type_name", .ofText typeName), ("value", x.toJson)]
  | vector xs => .record [("kind", .ofText "vector"), ("elements", .array (listToJson xs))]
  | text s => .record [("kind", .ofText "string"), ("value", .ofText s)]
  | callback name => .record [("kind", .ofText "callback"), ("name", .ofText name)]

/-- The documents of values. -/
def listToJson : List Value → List Json
  | [] => []
  | x :: xs => x.toJson :: listToJson xs

end

theorem listToJson_eq (xs : List Value) : listToJson xs = xs.map toJson := by
  induction xs with
  | nil => rfl
  | cons x xs ih => simp [listToJson, ih]

/-- The value of a shape whose parts are no values. -/
def leafOfSound (budget : Nat) (rest : Json) : Shape → Option Value
  | .scalar => do
    let f ← Fields.of? ["value"] budget rest
    return scalar (← f.required "value" Scalar.decode)
  | .enumerated => do
    let f ← Fields.of? ["type_name", "value"] budget rest
    return enumerated (← f.required "type_name" Decoder.text) (← f.required "value" Scalar.decode)
  | .text => do
    let f ← Fields.of? ["value"] budget rest
    return text (← f.required "value" Decoder.text)
  | .callback => do
    let f ← Fields.of? ["name"] budget rest
    return callback (← f.required "name" Decoder.text)
  | .vector => none

/-- The value of a sound document, with a bound on how deep values stand in each other. All values
but the outermost stand in a document that is held already. -/
def ofSound (held : Bool) : Decoder Value
  | 0, _ => none
  | budget + 1, doc => do
    let (tag, rest) ← doc.untag? "kind"
    let shape ← Json.variant? shapes held tag
    if shape = .vector then
      let f ← Fields.of? ["elements"] budget rest
      return vector (← f.items "elements" (ofSound true budget))
    else leafOfSound budget rest shape

instance : Wire Value := ⟨toJson, Decoder.held (ofSound false)⟩

end Value

namespace Descriptor

/-- The shapes of declared types. -/
inductive Shape where
  | scalar
  | enumerated
  | vector
  | array
  | text
  | callback
deriving DecidableEq

/-- The shapes by their tags, in their order. -/
def shapes : List (String × Shape) :=
  [("scalar", .scalar), ("enum", .enumerated), ("vector", .vector), ("array", .array),
    ("string", .text), ("callback", .callback)]

/-- The document of a declared type. -/
def toJson : Descriptor → Json
  | scalar kind => .record [("kind", .ofText "scalar"), ("scalar", .ofText kind.name)]
  | enumerated typeName underlying =>
    .record [("kind", .ofText "enum"), ("type_name", .ofText typeName),
      ("underlying", .ofText underlying.name)]
  | vector element => .record [("kind", .ofText "vector"), ("element", element.toJson)]
  | array element length =>
    .record [("kind", .ofText "array"), ("element", element.toJson),
      ("len", .ofInt length.val)]
  | text => .record [("kind", .ofText "string")]
  | callback interface =>
    .record [("kind", .ofText "callback"), ("interface", .ofText interface)]

/-- The kind of a scalar, in a held document. -/
def decodeKind : Decoder ScalarKind := Decoder.heldEnumeration ScalarKind.names

/-- The declared type of a shape whose parts are no declared types. -/
def leafOfSound (budget : Nat) (rest : Json) : Shape → Option Descriptor
  | .scalar => do
    let f ← Fields.of? ["scalar"] budget rest
    return scalar (← f.required "scalar" decodeKind)
  | .enumerated => do
    let f ← Fields.of? ["type_name", "underlying"] budget rest
    return enumerated (← f.required "type_name" Decoder.text) (← f.required "underlying" decodeKind)
  | .text => match rest with
    | .array (_ :: _) => none
    | _ => some text
  | .callback => do
    let f ← Fields.of? ["interface"] budget rest
    return callback (← f.required "interface" Decoder.text)
  | _ => none

/-- The declared type of a sound document, with a bound on how deep types stand in each other. All
types but the outermost stand in a document that is held already. -/
def ofSound (held : Bool) : Decoder Descriptor
  | 0, _ => none
  | budget + 1, doc => do
    let (tag, rest) ← doc.untag? "kind"
    let shape ← Json.variant? shapes held tag
    if shape = .vector then
      let f ← Fields.of? ["element"] budget rest
      return vector (← f.required "element" fun _ => ofSound true budget)
    else if shape = .array then
      let f ← Fields.of? ["element", "len"] budget rest
      return array (← f.required "element" fun _ => ofSound true budget)
        (← f.required "len" Decoder.integer)
    else leafOfSound budget rest shape

instance : Wire Descriptor := ⟨toJson, Decoder.held (ofSound false)⟩

end Descriptor

end TargetBench
