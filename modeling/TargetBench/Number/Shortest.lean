import TargetBench.Number.Binary

/-!
# Shortest decimals

The decimal with the fewest digits among those that read back as a given binary number, and among
those the nearest to it.

A binary number `m * 2 ^ q` is what every real number of an interval around it is rounded to. The
interval reaches half way to the neighbours and has its ends exactly if `m` is even. On the grid
of multiples of `10 ^ k` some point lies in the interval only if one of the two points next to the
number does. So the grids are tried from the coarsest that can matter to finer ones, and the first
with such a point gives the answer.

## Main definitions

* `Tie`: which of two equally near decimals is taken
* `Shortest.decimal`: the shortest decimal of a positive number, as a coefficient and a power of ten
-/

namespace TargetBench

/-- Which of two equally near decimals is taken. -/
inductive Tie where
  /-- The one with an even last digit. -/
  | toEven
  /-- The larger one. -/
  | up
deriving DecidableEq

namespace Shortest

/-- A positive number `significand * 2 ^ scale` and how its neighbour below is placed. -/
structure Target where
  significand : Nat
  scale : Int
  /-- Whether the number below is only half as far away as the number above. -/
  narrowBelow : Bool

/-- The point of the grid `10 ^ k` that is taken for a target, if one next to it lies in its
interval. All quantities are counted in quarters of the unit of the last place. -/
def gridPoint? (tie : Tie) (t : Target) (k : Int) : Option Nat :=
  let (two, twoBelow) := Binary.powerRatio 2 (t.scale - 2)
  let (ten, tenBelow) := Binary.powerRatio 10 k
  let quarter := two * tenBelow
  let grid := ten * twoBelow
  let value := 4 * t.significand * quarter
  let low := (4 * t.significand - if t.narrowBelow then 1 else 2) * quarter
  let high := (4 * t.significand + 2) * quarter
  let closed := t.significand % 2 = 0
  let floor := value / grid
  let below := floor * grid
  let above := below + grid
  let belowFits : Bool := low < below || (closed && low = below)
  let aboveFits : Bool := above < high || (closed && above = high)
  match belowFits, aboveFits with
  | true, false => some floor
  | false, true => some (floor + 1)
  | true, true =>
    if value - below < above - value then some floor
    else if above - value < value - below then some (floor + 1)
    else match tie with
      | .toEven => some (floor + floor % 2)
      | .up => some (floor + 1)
  | false, false => none

/-- The point of the first grid that has one, from `10 ^ k` to finer grids. -/
def search (tie : Tie) (t : Target) : Nat → Int → Nat × Int
  | 0, k => (0, k)
  | fuel + 1, k => match gridPoint? tie t k with
    | some point => (point, k)
    | none => search tie t fuel (k - 1)

/-- A power of ten above the target and at most a hundred times as large. -/
def coarsest (t : Target) : Int :=
  ((t.significand.log2 + 1 : Int) + t.scale) * 30103 / 100000 + 1

/-- The shortest decimal of a target: a coefficient and the power of ten it is multiplied by. A
grid a thousand times finer than the interval always has a point, so the search ends long before
its bound, which counts more grids than the number has digits. -/
def decimal (tie : Tie) (t : Target) : Nat × Int :=
  search tie t (t.significand.log2 + 8) (coarsest t)

/-- The number of a format at a place as a target. -/
def target (f : BinaryFormat) (place : Nat) : Target :=
  ⟨f.significand place, f.scale place,
    place % Nat.pow 2 f.fractionBits = 0 && Nat.pow 2 f.fractionBits < place⟩

end Shortest

end TargetBench
