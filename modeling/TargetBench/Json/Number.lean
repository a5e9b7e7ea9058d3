import TargetBench.Json.Basic
import TargetBench.Number.Bounded
import TargetBench.Number.Layout

/-!
# Numbers in documents

What the numerals of a document mean. A numeral without fraction and power of ten is an integer as
long as 64 bits hold it; minus zero is none. Every other numeral is a double number: its digits,
as many as 64 bits hold, and a power of ten are each rounded to a double number and then combined,
so the number is not always the nearest one.

## Main definitions

* `Numeral.integer?`: the integer that a numeral stands for
* `Numeral.double?`: the double number that a numeral stands for
* `Numeral.single?`: the same for single numbers
* `Json.ofDouble`, `Json.ofSingle`: the documents of numbers
-/

namespace TargetBench

namespace Numeral

/-- The largest number of 64 bits. -/
def wordLimit : Nat := Nat.pow 2 64 - 1

/-- The integer that a numeral stands for, if it is written as one and 64 bits hold it. -/
def integer? (n : Numeral) : Option Int :=
  if n.fraction.isEmpty ∧ n.exponent.isNone then
    if n.negative then
      if n.whole = 0 ∨ Nat.pow 2 63 < n.whole then none else some (-(n.whole : Int))
    else if n.whole ≤ wordLimit then some n.whole else none
  else none

/-- The leading digits of a number that 64 bits hold, and how many digits follow them. -/
def leadingWord (ds : List Decimal.Digit) : Nat × Nat :=
  ds.foldl (fun (kept, dropped) d =>
    if dropped = 0 ∧ 10 * kept + d.val ≤ wordLimit then (10 * kept + d.val, 0)
    else (kept, dropped + 1)) (0, 0)

/-- A whole number together with as many digits of a fraction as 64 bits hold, and how many digits
these are. -/
def extendWord (word : Nat) : List Decimal.Digit → Nat × Nat
  | [] => (word, 0)
  | d :: ds =>
    if 10 * word + d.val ≤ wordLimit then
      let (word, count) := extendWord (10 * word + d.val) ds
      (word, count + 1)
    else (word, 0)

/-- The largest power of ten that a double number holds. -/
def largestPower : Nat := 308

/-- A double number multiplied by a power of ten. A power too small for one division takes
several, each of which but the last divides by the largest power; three exhaust every number. -/
def scale : Nat → Binary64 → Int → Option Binary64
  | steps, x, e =>
    if e.natAbs ≤ largestPower then
      let power : Binary64 := .ofInt (Int.pow 10 e.natAbs)
      if 0 ≤ e then
        let product := x.mul power
        if product.isInfinite then none else some product
      else some (x.div power)
    else if x.isZero then some x
    else if 0 ≤ e then none
    else match steps with
      | 0 => some (.ofInt 0)
      | steps + 1 => scale steps (x.div (.ofInt (Int.pow 10 largestPower))) (e + largestPower)

/-- The size of the double number that a numeral stands for; none if it is too large. -/
def doubleSize? (n : Numeral) : Option Binary64 :=
  let (word, dropped) := leadingWord (Decimal.digits n.whole)
  let (word, places) := extendWord word n.fraction
  scale 3 (.ofInt word) (dropped - places + n.exponent.getD 0)

/-- The double number that a numeral stands for; none if it is too large. -/
def double? (n : Numeral) : Option Binary64 :=
  match n.integer? with
  | some i => some (.ofInt i)
  | none => n.doubleSize?.map fun x => if n.negative then x.neg else x

/-- The single number that a numeral stands for. An integer is rounded once, every other number
first to a double number; one too large for a single number becomes an infinity. -/
def single? (n : Numeral) : Option Binary32 :=
  match n.integer? with
  | some i => some (.ofInt i)
  | none => n.double?.map Binary.convert

end Numeral

namespace Json

/-- The document of a number in a layout; infinities and NaN are null. -/
def ofBinary {f : BinaryFormat} (layout : Layout) (x : Binary f) : Json :=
  match layout.numeral? x with
  | some n => .number n
  | none => .null

/-- The document of a double number. -/
def ofDouble (x : Binary64) : Json := ofBinary .document64 x

/-- The document of a single number. -/
def ofSingle (x : Binary32) : Json := ofBinary .document32 x

end Json

end TargetBench
