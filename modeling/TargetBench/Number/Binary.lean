/-!
# Binary floating-point numbers

Numbers of a binary interchange format, held exactly: a finite number is a sign and its place in
the row of non-negative numbers of the format, counted from zero. Conversions and products are
computed on exact ratios and rounded once, to the nearest number of the format, a half to the
even neighbour.

## Main definitions

* `BinaryFormat`: how many bits hold the fraction and the exponent
* `Binary f`: the numbers of a format
* `Binary.ofRatio`: the number nearest to a ratio
* `Binary.same`: equality of numbers, where nothing equals a NaN and the two zeros are equal
-/

namespace TargetBench

/-- The widths of a binary interchange format. -/
structure BinaryFormat where
  /-- Bits of the fraction, the leading bit of a normal number not counted. -/
  fractionBits : Nat
  /-- Bits of the exponent. -/
  exponentBits : Nat
deriving DecidableEq

namespace BinaryFormat

/-- The 32-bit format. -/
def single : BinaryFormat := ⟨23, 8⟩

/-- The 64-bit format. -/
def double : BinaryFormat := ⟨52, 11⟩

/-- The exponent of the distance between the numbers next to zero. -/
def unitExponent (f : BinaryFormat) : Int := 2 - Int.pow 2 (f.exponentBits - 1) - f.fractionBits

/-- How many non-negative finite numbers the format has. -/
def finiteCount (f : BinaryFormat) : Nat :=
  (Nat.pow 2 f.exponentBits - 1) * Nat.pow 2 f.fractionBits

/-- The whole number that is multiplied by a power of two to give the number at a place. -/
def significand (f : BinaryFormat) (place : Nat) : Nat :=
  if place < Nat.pow 2 f.fractionBits then place
  else Nat.pow 2 f.fractionBits + place % Nat.pow 2 f.fractionBits

/-- The exponent of that power of two. -/
def scale (f : BinaryFormat) (place : Nat) : Int :=
  f.unitExponent + (place / Nat.pow 2 f.fractionBits - 1 : Nat)

end BinaryFormat

/-- The numbers of a binary format. -/
inductive Binary (f : BinaryFormat) where
  /-- Not a number. -/
  | nan
  /-- An infinity. -/
  | infinite (negative : Bool)
  /-- A finite number, by its sign and its place among the non-negative numbers. -/
  | finite (negative : Bool) (place : Fin f.finiteCount)
deriving DecidableEq

/-- Numbers of the 32-bit format. -/
abbrev Binary32 : Type := Binary .single

/-- Numbers of the 64-bit format. -/
abbrev Binary64 : Type := Binary .double

namespace Binary

variable {f g : BinaryFormat}

/-- A power of a base, as a ratio. -/
def powerRatio (base : Nat) (e : Int) : Nat × Nat :=
  (Nat.pow base e.toNat, Nat.pow base (-e).toNat)

/-- The exponent of the largest power of two that is at most `num / den`, both positive. -/
def floorLog2 (num den : Nat) : Int :=
  let guess : Int := (num.log2 : Int) - den.log2
  let (up, down) := powerRatio 2 guess
  if num * down < den * up then guess - 1 else guess

/-- The whole number nearest to `num / den`; a half goes to the even neighbour. -/
def nearestEven (num den : Nat) : Nat :=
  let floor := num / den
  let rest := 2 * (num % den)
  if rest < den then floor
  else if den < rest then floor + 1
  else floor + floor % 2

/-- The number of the format nearest to `num / den`, with the given sign. A ratio beyond the
largest number by half a step or more becomes an infinity. -/
def ofRatio (negative : Bool) (num den : Nat) : Binary f :=
  let unit := f.unitExponent
  let exponent := if num = 0 then unit else max unit (floorLog2 num den - f.fractionBits)
  let (up, down) := powerRatio 2 exponent
  let place := nearestEven (num * down) (den * up)
    + (exponent - unit).toNat * Nat.pow 2 f.fractionBits
  if h : place < f.finiteCount then .finite negative ⟨place, h⟩ else .infinite negative

/-- The number nearest to an integer. -/
def ofInt (n : Int) : Binary f := ofRatio (n < 0) n.natAbs 1

/-- The number nearest to `n` times a power of ten, with the given sign. A power out of the range of
all numbers of the format is not worked out. -/
def ofDecimal (negative : Bool) (n : Nat) (e : Int) : Binary f :=
  let range : Int := Int.pow 2 f.exponentBits
  if n = 0 ∨ e + n.log2 + 1 < -range then ofRatio negative 0 1
  else if range < e then .infinite negative
  else
    let (up, down) := powerRatio 10 e
    ofRatio negative (n * up) down

/-- Minus zero. -/
def negativeZero : Binary f := ofRatio true 0 1

/-- The size of the number at a place, as a ratio. -/
def ratioAt (f : BinaryFormat) (place : Nat) : Nat × Nat :=
  let (up, down) := powerRatio 2 (f.scale place)
  (f.significand place * up, down)

/-- The product, rounded. -/
def mul : Binary f → Binary f → Binary f
  | .finite s x, .finite t y =>
    let (a, b) := ratioAt f x
    let (c, d) := ratioAt f y
    ofRatio (s != t) (a * c) (b * d)
  | .infinite s, .infinite t => .infinite (s != t)
  | .infinite s, .finite t y => if y.val = 0 then .nan else .infinite (s != t)
  | .finite s x, .infinite t => if x.val = 0 then .nan else .infinite (s != t)
  | .nan, _ => .nan
  | _, .nan => .nan

/-- The quotient, rounded. -/
def div : Binary f → Binary f → Binary f
  | .finite s x, .finite t y =>
    if y.val = 0 then (if x.val = 0 then .nan else .infinite (s != t))
    else
      let (a, b) := ratioAt f x
      let (c, d) := ratioAt f y
      ofRatio (s != t) (a * d) (b * c)
  | .infinite s, .finite t _ => .infinite (s != t)
  | .finite s _, .infinite t => ofRatio (s != t) 0 1
  | .infinite _, .infinite _ => .nan
  | .nan, _ => .nan
  | _, .nan => .nan

/-- The number with its sign reversed. -/
def neg : Binary f → Binary f
  | .nan => .nan
  | .infinite s => .infinite !s
  | .finite s x => .finite (!s) x

/-- The nearest number of another format. -/
def convert : Binary f → Binary g
  | .nan => .nan
  | .infinite s => .infinite s
  | .finite s x => let (a, b) := ratioAt f x; ofRatio s a b

/-- Whether the number is one of the two zeros. -/
def isZero : Binary f → Bool
  | .finite _ x => x.val = 0
  | _ => false

/-- Whether the number is an infinity. -/
def isInfinite : Binary f → Bool
  | .infinite _ => true
  | _ => false

/-- Equality of numbers: a NaN equals nothing, and the two zeros are equal. -/
def same : Binary f → Binary f → Bool
  | .finite s x, .finite t y => x.val = y.val && (s = t || x.val = 0)
  | .infinite s, .infinite t => s = t
  | _, _ => false

-- programs compare numbers this way; as values the two zeros differ and a NaN is one
instance : BEq (Binary f) := ⟨same⟩

end Binary

end TargetBench
