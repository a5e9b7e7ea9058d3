import TargetBench.Component.Class
import TargetBench.Value.Wire

/-!
# Interfaces

What a component offers: its identity, the functions that can be called and the attributes that
can be read. Specification files hold interfaces.

## Main definitions

* `Signature`: the declaration of a function
* `Attribute`: the declaration of an attribute
* `Interface`: everything a component offers
-/

namespace TargetBench

/-- The declaration of a function. -/
structure Signature where
  name : String
  /-- The types of the parameters. -/
  args : List Descriptor
  /-- The types of the return values. -/
  returns : List Descriptor
deriving DecidableEq

/-- The declaration of an attribute. -/
structure Attribute where
  name : String
  type : Descriptor
deriving DecidableEq

/-- Everything a component offers. -/
structure Interface where
  componentClass : ComponentClass
  /-- The number of the component's type; zero if its class has no types. -/
  componentType : Signed 32
  version : Binary32
  /-- The package of a service. -/
  package : Option String
  name : String
  functions : List Signature
  attributes : List Attribute
deriving BEq, DecidableEq

namespace Signature

/-- The document of a declaration. -/
def toJson (s : Signature) : Json :=
  .record [("name", .ofText s.name), ("args", .array (s.args.map Descriptor.toJson)),
    ("returns", .array (s.returns.map Descriptor.toJson))]

/-- The declaration of a document. -/
def decode : Decoder Signature :=
  Decoder.record ["name", "args", "returns"] fun f => do
    return {
      name := ← f.required "name" Decoder.text
      args := ← f.defaulted "args" (Decoder.list Wire.decode) []
      returns := ← f.defaulted "returns" (Decoder.list Wire.decode) [] }

instance : Wire Signature := ⟨toJson, decode⟩

end Signature

namespace Attribute

/-- The document of a declaration. -/
def toJson (a : Attribute) : Json :=
  .record [("name", .ofText a.name), ("type", a.type.toJson)]

/-- The declaration of a document. -/
def decode : Decoder Attribute :=
  Decoder.record ["name", "type"] fun f => do
    return {
      name := ← f.required "name" Decoder.text
      type := ← f.required "type" Wire.decode }

instance : Wire Attribute := ⟨toJson, decode⟩

end Attribute

namespace Interface

/-- The declaration of the function of a name, the first one. -/
def function? (i : Interface) (name : String) : Option Signature :=
  i.functions.find? fun f => f.name = name

/-- The declaration of the attribute of a name, the first one. -/
def attribute? (i : Interface) (name : String) : Option Attribute :=
  i.attributes.find? fun a => a.name = name

/-- The document of an interface. -/
def toJson (i : Interface) : Json :=
  .record (
    [("component_class", Wire.toJson i.componentClass),
      ("component_type", .ofInt i.componentType.val),
      ("component_type_version", .ofSingle i.version)]
    ++ Json.optionalMember "package" .ofText i.package
    ++ [("component_name", .ofText i.name),
      ("functions", .array (i.functions.map Signature.toJson)),
      ("attributes", .array (i.attributes.map Attribute.toJson))])

/-- The names of the fields. -/
def fieldNames : List String :=
  ["component_class", "component_type", "component_type_version", "package", "component_name",
    "functions", "attributes"]

/-- The interface of a document. -/
def decode : Decoder Interface :=
  Decoder.record fieldNames fun f => do
    return {
      componentClass := ← f.required "component_class" Wire.decode
      componentType := ← f.defaulted "component_type" Decoder.integer (Signed.zero 32)
      version := ← f.required "component_type_version" Decoder.single
      package := ← f.optional "package" Decoder.text
      name := ← f.defaulted "component_name" Decoder.text ""
      functions := ← f.defaulted "functions" (Decoder.list Wire.decode) []
      attributes := ← f.defaulted "attributes" (Decoder.list Wire.decode) [] }

instance : Wire Interface := ⟨toJson, decode⟩

end Interface

end TargetBench
