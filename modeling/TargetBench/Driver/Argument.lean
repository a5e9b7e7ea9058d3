import TargetBench.Text.Complaint
import TargetBench.Value.Descriptor

/-!
# Arguments

Typed access to the arguments of a call by position. Every access checks the shape and kind of
the value against the native type it is read as, so a mismatch is reported with its position.

## Main definitions

* `MarshalError`: why an argument cannot be read
* `Arguments`: the arguments of a call
* `Arguments.scalar`, `Arguments.vector`, `Arguments.array`, `Arguments.text`,
  `Arguments.callback`: an argument read as a native value
* `Value.ofNative`, `Value.ofNatives`: native values as values
-/

namespace TargetBench

/-- Why an argument cannot be read. -/
inductive MarshalError where
  /-- The call has the wrong number of arguments. -/
  | count (expected actual : Nat)
  /-- There is no argument at the position. -/
  | missing (index : Nat)
  /-- The argument is of another shape, kind or type. -/
  | kind (index : Nat) (expected found : String)
  /-- An element of the argument is no scalar of the kind. -/
  | element (index position : Nat) (expected : ScalarKind)
  /-- The argument has the wrong number of elements. -/
  | length (index expected actual : Nat)
  /-- The discriminant belongs to no member of the enumerated type. -/
  | unknownMember (typeName : String) (discriminant : Scalar)

/-- The text of an error. -/
def MarshalError.message : MarshalError → String
  | count expected actual =>
    "expected " ++ Decimal.text expected ++ " argument(s), got " ++ Decimal.text actual
  | missing index => "argument " ++ Decimal.text index ++ " is missing"
  | kind index expected found =>
    "argument " ++ Decimal.text index ++ " should be " ++ expected ++ ", got " ++ found
  | element index position expected =>
    "argument " ++ Decimal.text index ++ " element " ++ Decimal.text position ++ " should be "
      ++ expected.name
  | length index expected actual =>
    "argument " ++ Decimal.text index ++ " should hold " ++ Decimal.text expected
      ++ " element(s), got " ++ Decimal.text actual
  | unknownMember typeName discriminant =>
    typeName ++ " has no member with value " ++ discriminant.report

/-- What a report calls an error. -/
def MarshalError.label : MarshalError → String
  | count .. => "Count"
  | missing _ => "Missing"
  | kind .. => "Kind"
  | element .. => "Element"
  | length .. => "Length"
  | unknownMember .. => "UnknownEnumValue"

instance : Reported MarshalError := ⟨MarshalError.label, MarshalError.message⟩

/-- The error about a value that is not of the declared type. -/
def MarshalError.mismatch (index : Nat) (expected : Descriptor) (found : Value) : MarshalError :=
  kind index expected.display found.shape

namespace Value

/-- A native value as a value. -/
def ofNative (k : ScalarKind) (x : k.Native) : Value := scalar ⟨k, x⟩

/-- A sequence of native values as a value. -/
def ofNatives (k : ScalarKind) (xs : List k.Native) : Value := vector (xs.map (ofNative k))

/-- The native value of a value that is a scalar of the kind. -/
def native? (k : ScalarKind) : Value → Option k.Native
  | scalar x => x.as? k
  | _ => none

end Value

/-- The arguments of a call. -/
structure Arguments where
  values : List Value

namespace Arguments

/-- How many arguments there are. -/
def size (a : Arguments) : Nat := a.values.length

/-- Whether there are no arguments. -/
def isEmpty (a : Arguments) : Bool := a.values.isEmpty

/-- The argument at a position. -/
def value (a : Arguments) (index : Nat) : Except MarshalError Value :=
  match a.values[index]? with
  | some v => .ok v
  | none => .error (.missing index)

/-- The argument at a position, as a scalar of a kind. -/
def scalar (a : Arguments) (k : ScalarKind) (index : Nat) : Except MarshalError k.Native := do
  match ← a.value index with
  | .scalar x => match x.as? k with
    | some n => .ok n
    | none => .error (.kind index k.name x.kind.name)
  | other => .error (.mismatch index (.scalar k) other)

/-- The elements of an argument as scalars of a kind, with the position of the first element. -/
def elements (k : ScalarKind) (index : Nat) : Nat → List Value → Except MarshalError (List k.Native)
  | _, [] => .ok []
  | position, v :: vs => match v.native? k with
    | some n => (elements k index (position + 1) vs).map (n :: ·)
    | none => .error (.element index position k)

/-- The argument at a position, as a sequence of scalars of a kind. -/
def vector (a : Arguments) (k : ScalarKind) (index : Nat) :
    Except MarshalError (List k.Native) := do
  match ← a.value index with
  | .vector vs => elements k index 0 vs
  | other => .error (.mismatch index (.vector (.scalar k)) other)

/-- The argument at a position, as a sequence of exactly `n` scalars of a kind. -/
def array (a : Arguments) (k : ScalarKind) (n : Nat) (index : Nat) :
    Except MarshalError { xs : List k.Native // xs.length = n } := do
  let xs ← a.vector k index
  if h : xs.length = n then .ok ⟨xs, h⟩ else .error (.length index n xs.length)

/-- The argument at a position, as a text. -/
def text (a : Arguments) (index : Nat) : Except MarshalError String := do
  match ← a.value index with
  | .text s => .ok s
  | other => .error (.mismatch index .text other)

/-- The argument at a position, as the name of a callback object. -/
def callback (a : Arguments) (index : Nat) : Except MarshalError String := do
  match ← a.value index with
  | .callback name => .ok name
  | other => .error (.kind index "callback" other.shape)

end Arguments

end TargetBench
