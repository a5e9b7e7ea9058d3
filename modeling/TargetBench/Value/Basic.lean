import TargetBench.Value.Scalar

/-!
# Values

The arguments and results of calls, and the content of attributes. A value carries its shape, so
a reader never has to trust the sender to know the declared type.

## Main definitions

* `Value`: values
* `Value.same`: equality of values, in which binary numbers are compared as numbers
* `Value.shape`: the name of a value's shape
-/

namespace TargetBench

/-- A value. -/
inductive Value where
  /-- A primitive value. -/
  | scalar (value : Scalar)
  /-- A member of an enumerated type, by its discriminant. -/
  | enumerated (typeName : String) (value : Scalar)
  /-- A sequence. -/
  | vector (elements : List Value)
  /-- A text. -/
  | text (value : String)
  /-- A callback object that the agent keeps under a name. -/
  | callback (name : String)

namespace Value

/-- The name of a value's shape. -/
def shape : Value → String
  | scalar _ => "scalar"
  | enumerated _ _ => "enum"
  | vector _ => "vector"
  | text _ => "string"
  | callback _ => "callback"

mutual

/-- Equality of values, in which binary numbers are compared as numbers. -/
def same : Value → Value → Bool
  | scalar x, scalar y => x == y
  | enumerated s x, enumerated t y => s == t && x == y
  | vector xs, vector ys => sameAll xs ys
  | text s, text t => s == t
  | callback s, callback t => s == t
  | _, _ => false

/-- Equality of sequences of values. -/
def sameAll : List Value → List Value → Bool
  | [], [] => true
  | x :: xs, y :: ys => x.same y && sameAll xs ys
  | _, _ => false

end

instance : BEq Value := ⟨same⟩

end Value

end TargetBench
