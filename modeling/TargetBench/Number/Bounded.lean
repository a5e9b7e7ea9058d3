/-!
# Integers of a declared width

Wire fields and scalar values declare the width of their integers. An integer of a width is an
integer together with the proof that it lies in the range of that width, so a value out of range
cannot be built and nothing ever wraps.

## Main definitions

* `Bounded lo hi`: the integers between two bounds
* `Signed bits`, `Unsigned bits`: the two's complement and the unsigned range of a width
* `Bounded.ofInt?`: an integer, if it lies in the range
-/

namespace TargetBench

/-- An integer between two bounds, both included. -/
@[ext] structure Bounded (lo hi : Int) where
  /-- The integer. -/
  val : Int
  lo_le : lo ≤ val
  le_hi : val ≤ hi
deriving DecidableEq

/-- The integers of a two's complement word of `bits` bits. -/
abbrev Signed (bits : Nat) : Type := Bounded (-Int.pow 2 (bits - 1)) (Int.pow 2 (bits - 1) - 1)

/-- The integers of an unsigned word of `bits` bits. -/
abbrev Unsigned (bits : Nat) : Type := Bounded 0 (Int.pow 2 bits - 1)

namespace Bounded

variable {lo hi : Int}

/-- The integer as a member of the range, `none` outside it. -/
def ofInt? (n : Int) : Option (Bounded lo hi) :=
  if h : lo ≤ n ∧ n ≤ hi then some ⟨n, h.1, h.2⟩ else none

@[simp] theorem ofInt?_val (x : Bounded lo hi) :
    (ofInt? x.val : Option (Bounded lo hi)) = some x := by
  simp [ofInt?, x.lo_le, x.le_hi]

end Bounded

/-- A natural number of a word of `bits` bits; a larger one becomes the largest word. -/
def Unsigned.clamp (bits n : Nat) : Unsigned bits :=
  have one_le : 1 ≤ Int.pow 2 bits := Int.pow_pos (by decide)
  if h : (n : Int) ≤ Int.pow 2 bits - 1 then ⟨n, by omega, h⟩
  else ⟨Int.pow 2 bits - 1, by omega, by omega⟩

/-- Zero is an integer of every width. -/
def Signed.zero (bits : Nat) : Signed bits :=
  have one_le : 1 ≤ Int.pow 2 (bits - 1) := Int.pow_pos (by decide)
  ⟨0, by omega, by omega⟩

/-- Zero is an unsigned integer of every width. -/
def Unsigned.zero (bits : Nat) : Unsigned bits := Unsigned.clamp bits 0

end TargetBench
