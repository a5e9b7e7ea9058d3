import TargetBench.Number.Numeral
import TargetBench.Number.Shortest

/-!
# Layout of binary numbers in decimal

How the shortest decimal of a binary number is laid out: positionally with a fraction, or with one
digit before the point and a power of ten.

## Main definitions

* `Layout`: where positional notation begins and ends, and which way ties go
* `Layout.numeral?`: the numeral of a number; infinities and NaN have none
* `Layout.document32`, `Layout.document64`: numbers in documents
* `Layout.plain`: numbers outside documents: versions in keys, queries and directory names
* `Binary.text`: the text of a number outside documents
-/

namespace TargetBench

/-- Decisions about the numeral of a binary number. -/
structure Layout where
  /-- The least power of ten of the first digit that is written positionally. -/
  lowest : Int
  /-- The greatest power of ten of the first digit that is written positionally. -/
  highest : Int
  /-- Which of two equally near shortest decimals is taken. -/
  tie : Tie

namespace Layout

/-- Single numbers in documents. -/
def document32 : Layout := ⟨-6, 12, .toEven⟩

/-- Double numbers in documents. -/
def document64 : Layout := ⟨-5, 15, .toEven⟩

/-- Numbers outside documents: versions in keys, queries and directory names. -/
def plain : Layout := ⟨-4, 15, .up⟩

/-- Digits with the zeros at their end removed. -/
def trimZeros (ds : List Decimal.Digit) : List Decimal.Digit :=
  (ds.reverse.dropWhile (· = .zero)).reverse

/-- Digits after a point: at least one. -/
def fractionOf (ds : List Decimal.Digit) : List Decimal.Digit :=
  if ds.isEmpty then [.zero] else ds

/-- The numeral with the given digits of which the first counts for `10 ^ e`. -/
def place (layout : Layout) (negative : Bool) (ds : List Decimal.Digit) (e : Int) : Numeral :=
  if layout.lowest ≤ e ∧ e ≤ layout.highest then
    if e < 0 then ⟨negative, 0, List.replicate (-e - 1).toNat .zero ++ ds, none⟩
    else
      let missing := List.replicate (e.toNat + 1 - ds.length) Decimal.Digit.zero
      ⟨negative, Decimal.value (ds.take (e.toNat + 1) ++ missing),
        fractionOf (ds.drop (e.toNat + 1)), none⟩
  else ⟨negative, Decimal.value (ds.take 1), ds.drop 1, some e⟩

/-- The numeral of a number of a format. -/
def numeral? {f : BinaryFormat} (layout : Layout) : Binary f → Option Numeral
  | .nan => none
  | .infinite _ => none
  | .finite negative x =>
    if x.val = 0 then some ⟨negative, 0, [.zero], none⟩
    else
      let (coefficient, k) := Shortest.decimal layout.tie (Shortest.target f x)
      let ds := Decimal.digits coefficient
      some (layout.place negative (trimZeros ds) (k + ds.length - 1))

end Layout

/-- The text of a number outside documents. -/
def Binary.text {f : BinaryFormat} : Binary f → String
  | .nan => "NaN"
  | .infinite true => "-inf"
  | .infinite false => "inf"
  | x => match Layout.plain.numeral? x with
    | some n => String.ofList (n.chars false)
    | none => ""

end TargetBench
