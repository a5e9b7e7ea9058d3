import TargetBench.Number.Bounded
import TargetBench.Number.Decimal
import TargetBench.Number.Layout

/-!
# Scalars

Primitive values. A scalar is a kind together with a native value of that kind, so a kind fixes
the type of what it holds.

## Main definitions

* `ScalarKind`: the primitive kinds
* `ScalarKind.Native`: the type of the values of a kind
* `Scalar`: a kind and a value of it
-/

namespace TargetBench

/-- The primitive kinds. -/
inductive ScalarKind where
  | bool
  | int8
  | uint8
  | int16
  | uint16
  | int32
  | uint32
  | int64
  | uint64
  | float
  | double
deriving DecidableEq

namespace ScalarKind

/-- The kinds by their names. -/
def names : List (String × ScalarKind) :=
  [("bool", bool), ("int8", int8), ("uint8", uint8), ("int16", int16), ("uint16", uint16),
    ("int32", int32), ("uint32", uint32), ("int64", int64), ("uint64", uint64),
    ("float", float), ("double", double)]

/-- The name of a kind. -/
def name : ScalarKind → String
  | bool => "bool"
  | int8 => "int8"
  | uint8 => "uint8"
  | int16 => "int16"
  | uint16 => "uint16"
  | int32 => "int32"
  | uint32 => "uint32"
  | int64 => "int64"
  | uint64 => "uint64"
  | float => "float"
  | double => "double"

/-- The names are read as what they name. -/
theorem lookup_name (k : ScalarKind) : names.lookup k.name = some k := by
  cases k <;> decide

/-- The type of the values of a kind. -/
@[reducible] def Native : ScalarKind → Type
  | bool => Bool
  | int8 => Signed 8
  | uint8 => Unsigned 8
  | int16 => Signed 16
  | uint16 => Unsigned 16
  | int32 => Signed 32
  | uint32 => Unsigned 32
  | int64 => Signed 64
  | uint64 => Unsigned 64
  | float => Binary32
  | double => Binary64

/-- Equality of native values; for binary numbers it is equality of numbers. -/
def same : (k : ScalarKind) → k.Native → k.Native → Bool
  | bool, x, y => x == y
  | int8, x, y => x.val == y.val
  | uint8, x, y => x.val == y.val
  | int16, x, y => x.val == y.val
  | uint16, x, y => x.val == y.val
  | int32, x, y => x.val == y.val
  | uint32, x, y => x.val == y.val
  | int64, x, y => x.val == y.val
  | uint64, x, y => x.val == y.val
  | float, x, y => x == y
  | double, x, y => x == y

/-- The text of a native value. -/
def text : (k : ScalarKind) → k.Native → String
  | bool, x => if x then "true" else "false"
  | int8, x => Decimal.signedText x.val
  | uint8, x => Decimal.signedText x.val
  | int16, x => Decimal.signedText x.val
  | uint16, x => Decimal.signedText x.val
  | int32, x => Decimal.signedText x.val
  | uint32, x => Decimal.signedText x.val
  | int64, x => Decimal.signedText x.val
  | uint64, x => Decimal.signedText x.val
  | float, x => x.text
  | double, x => x.text

end ScalarKind

/-- A primitive value: a kind and a value of it. -/
structure Scalar where
  kind : ScalarKind
  native : kind.Native

namespace Scalar

/-- Equality of kind and value; for binary numbers it is equality of numbers. -/
def same (x y : Scalar) : Bool :=
  if h : y.kind = x.kind then x.kind.same x.native (h ▸ y.native) else false

instance : BEq Scalar := ⟨same⟩

/-- The native value of a scalar, if it is of the given kind. -/
def as? (k : ScalarKind) (x : Scalar) : Option k.Native :=
  if h : x.kind = k then some (h ▸ x.native) else none

@[simp] theorem as?_mk (k : ScalarKind) (x : k.Native) : as? k ⟨k, x⟩ = some x := by simp [as?]

theorem as?_eq_some_iff {k : ScalarKind} {x : Scalar} {n : k.Native} :
    x.as? k = some n ↔ x = ⟨k, n⟩ := by
  constructor
  · intro h
    obtain ⟨kind, native⟩ := x
    unfold as? at h
    split at h
    · rename_i e
      cases e
      cases h
      rfl
    · cases h
  · rintro rfl
    exact as?_mk k n

/-- A scalar in a report: its kind, the first letter as a capital, and its value. -/
def report (x : Scalar) : String :=
  x.kind.name.capitalize ++ "(" ++ x.kind.text x.native ++ ")"

end Scalar

end TargetBench
