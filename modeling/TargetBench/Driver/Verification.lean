import TargetBench.Driver.Enumerated

/-!
# Verification of results

Comparison of the results of a call with expected ones. The number of results is compared first,
so no comparison is true of results that are missing or left over.

## Main definitions

* `VerifyError`: the first difference
* `compareValues`: comparison by shape, kind and value
* `compareMembers`: comparison as members of an enumerated type
-/

namespace TargetBench

/-- Why results are not as expected. -/
inductive VerifyError where
  /-- There is no such function. -/
  | unknownFunction (name : String)
  /-- The number of results differs. -/
  | count (expected actual : Nat)
  /-- The result at the position differs. -/
  | value (index : Nat)
  /-- The result at the position, or its expectation, cannot be read for comparison. -/
  | incomparable (index : Nat) (source : MarshalError)

/-- The text of an error. -/
def VerifyError.message : VerifyError → String
  | unknownFunction name => "cannot verify unknown function '" ++ name ++ "'"
  | count expected actual =>
    "expected " ++ Decimal.text expected ++ " result(s), got " ++ Decimal.text actual
  | value index => "result " ++ Decimal.text index ++ " does not match the expected value"
  | incomparable index source =>
    "result " ++ Decimal.text index ++ " is not comparable: " ++ source.message

/-- What a report calls an error. -/
def VerifyError.label : VerifyError → String
  | unknownFunction _ => "UnknownFunction"
  | count .. => "CountMismatch"
  | value _ => "ValueMismatch"
  | incomparable .. => "Undecodable"

instance : Reported VerifyError := ⟨VerifyError.label, VerifyError.message⟩

/-- A comparison of expected with actual results. -/
abbrev Verifier := List Value → List Value → Except VerifyError Unit

/-- Compares the numbers of results. -/
def compareCounts : Verifier := fun expected actual =>
  if expected.length = actual.length then .ok ()
  else .error (.count expected.length actual.length)

/-- Compares pairs of values from a position on. -/
def comparePairs (compare : Nat → Value → Value → Except VerifyError Unit) :
    Nat → List (Value × Value) → Except VerifyError Unit
  | _, [] => .ok ()
  | index, (want, got) :: pairs => do
    compare index want got
    comparePairs compare (index + 1) pairs

/-- Compares by shape, kind and value. -/
def compareValues : Verifier := fun expected actual => do
  compareCounts expected actual
  comparePairs (fun index want got => if want == got then .ok () else .error (.value index)) 0
    (expected.zip actual)

/-- Compares as members of an enumerated type. -/
def compareMembers (ε : Type) [Enumerated ε] [DecidableEq ε] : Verifier := fun expected actual => do
  compareCounts expected actual
  let read (index : Nat) (v : Value) : Except VerifyError ε :=
    (Enumerated.member ε index v).mapError (.incomparable index)
  comparePairs (fun index want got => do
    if (← read index want) = (← read index got) then .ok () else .error (.value index)) 0
    (expected.zip actual)

end TargetBench
