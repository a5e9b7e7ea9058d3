import TargetBench.Value.Wire

/-!
# Calls

The description of a call, what it is expected to return, and how it went.

## Main definitions

* `Call`: which function to call with which arguments, or which attribute to read
* `Expectation`: the results that a function is expected to return
* `CallResult`: the results of a call, its duration, and whether they were as expected
-/

namespace TargetBench

/-- What a call addresses. -/
inductive CallTarget where
  | function
  | attribute
deriving DecidableEq

instance : Wire CallTarget where
  toJson
    | .function => .ofText "function"
    | .attribute => .ofText "attribute"
  decode := Decoder.enumeration [("function", .function), ("attribute", .attribute)]

/-- The description of a call. -/
structure Call where
  name : String
  target : CallTarget
  args : List Value
  /-- The results that the call should return, if they are to be compared. -/
  expected : Option (List Value)
deriving BEq

/-- The results that a function is expected to return. -/
structure Expectation where
  name : String
  expected : List Value
deriving BEq

/-- How a call went. -/
structure CallResult where
  name : String
  results : List Value
  /-- How long the call took, in nanoseconds. -/
  elapsed : Unsigned 64
  /-- Whether the results were as expected, if results were expected. -/
  verified : Option Bool
deriving BEq

/-- The document of a list of values. -/
def Value.arrayOf (values : List Value) : Json := .array (values.map Value.toJson)

namespace Call

/-- The call of a function. -/
def ofFunction (name : String) (args : List Value) : Call := ⟨name, .function, args, none⟩

/-- The reading of an attribute. -/
def ofAttribute (name : String) : Call := ⟨name, .attribute, [], none⟩

/-- The call with results to compare with. -/
def expecting (c : Call) (expected : List Value) : Call := { c with expected := some expected }

/-- What the call should return, if that is given. -/
def expectation (c : Call) : Option Expectation := c.expected.map fun e => ⟨c.name, e⟩

/-- The document of a call. -/
def toJson (c : Call) : Json :=
  .record (
    [("name", .ofText c.name), ("target", Wire.toJson c.target), ("args", Value.arrayOf c.args)]
    ++ Json.optionalMember "expected_results" Value.arrayOf c.expected)

/-- The call of a document. -/
def decode : Decoder Call :=
  Decoder.record ["name", "target", "args", "expected_results"] fun f => do
    return {
      name := ← f.required "name" Decoder.text
      target := ← f.defaulted "target" Wire.decode .function
      args := ← f.defaulted "args" (Decoder.list Wire.decode) []
      expected := ← f.optional "expected_results" (Decoder.list Wire.decode) }

instance : Wire Call := ⟨toJson, decode⟩

end Call

namespace Expectation

/-- The document of an expectation. -/
def toJson (e : Expectation) : Json :=
  .record [("name", .ofText e.name), ("expected", Value.arrayOf e.expected)]

/-- The expectation of a document. -/
def decode : Decoder Expectation :=
  Decoder.record ["name", "expected"] fun f => do
    return {
      name := ← f.required "name" Decoder.text
      expected := ← f.required "expected" (Decoder.list Wire.decode) }

instance : Wire Expectation := ⟨toJson, decode⟩

end Expectation

namespace CallResult

/-- The document of a result. -/
def toJson (r : CallResult) : Json :=
  .record (
    [("name", .ofText r.name), ("results", Value.arrayOf r.results),
      ("elapsed_ns", .ofInt r.elapsed.val)]
    ++ Json.optionalMember "verified" .bool r.verified)

/-- The result of a document. -/
def decode : Decoder CallResult :=
  Decoder.record ["name", "results", "elapsed_ns", "verified"] fun f => do
    return {
      name := ← f.required "name" Decoder.text
      results := ← f.required "results" (Decoder.list Wire.decode)
      elapsed := ← f.required "elapsed_ns" Decoder.integer
      verified := ← f.optional "verified" Decoder.bool }

instance : Wire CallResult := ⟨toJson, decode⟩

end CallResult

end TargetBench
