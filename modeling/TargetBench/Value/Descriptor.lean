import TargetBench.Value.Basic

/-!
# Declared types

What parameters, return values and attributes are declared as, and which values are acceptable
where a type is declared.

## Main definitions

* `Descriptor`: declared types
* `Descriptor.admits`: whether a value is acceptable
* `Descriptor.display`: a declared type in messages
-/

namespace TargetBench

/-- A declared type. -/
inductive Descriptor where
  /-- A primitive of a kind. -/
  | scalar (kind : ScalarKind)
  /-- An enumerated type, by its name and the kind of its discriminants. -/
  | enumerated (typeName : String) (underlying : ScalarKind)
  /-- Sequences of any length. -/
  | vector (element : Descriptor)
  /-- Sequences of a fixed length. -/
  | array (element : Descriptor) (length : Unsigned 64)
  /-- Texts. -/
  | text
  /-- Callback objects of an interface. -/
  | callback (interface : String)
deriving DecidableEq

namespace Descriptor

/-- Whether a value is acceptable where a type is declared. An empty sequence is acceptable for
every element type. -/
def admits : Descriptor → Value → Bool
  | scalar kind, .scalar x => x.kind = kind
  | enumerated typeName underlying, .enumerated name x => name = typeName && x.kind = underlying
  | vector element, .vector xs => xs.all element.admits
  | array element length, .vector xs => (xs.length : Int) = length.val && xs.all element.admits
  | text, .text _ => true
  | callback _, .callback _ => true
  | _, _ => false

/-- A declared type in messages. -/
def display : Descriptor → String
  | scalar kind => kind.name
  | enumerated typeName _ => typeName
  | vector element => "vec<" ++ element.display ++ ">"
  | array element length =>
    element.display ++ "[" ++ Decimal.signedText length.val ++ "]"
  | text => "string"
  | callback interface => "callback<" ++ interface ++ ">"

end Descriptor

end TargetBench
