import TargetBench.Number.Decimal

/-!
# Decimal numerals

A number as it is written in decimal: a sign, whole part, digits after the point, and a power of
ten. The written parts are kept apart because the formats tell integers from other numbers by
them, not by value.

## Main definitions

* `Numeral`: the parts of a written number
* `Numeral.read`: the numeral that characters spell, if they spell one
* `Numeral.chars`: the characters of a numeral
-/

namespace TargetBench

/-- The parts of a number written in decimal. -/
structure Numeral where
  /-- Whether a minus sign stands first. -/
  negative : Bool
  /-- The digits before the point, which have no superfluous zero in front. -/
  whole : Nat
  /-- The digits after the point; none if there is no point. -/
  fraction : List Decimal.Digit
  /-- The power of ten, if one is written. -/
  exponent : Option Int
deriving DecidableEq

namespace Numeral

/-- The numeral of an integer. -/
def ofInt (n : Int) : Numeral := ⟨n < 0, n.natAbs, [], none⟩

/-- The leading digits of a text, and what follows them. -/
def splitDigits (cs : List Char) : List Decimal.Digit × List Char :=
  ((cs.takeWhile fun c => (Decimal.digit? c).isSome).filterMap Decimal.digit?,
    cs.dropWhile fun c => (Decimal.digit? c).isSome)

/-- Removes a minus sign from the front and tells whether there was one. -/
def splitMinus : List Char → Bool × List Char
  | '-' :: cs => (true, cs)
  | cs => (false, cs)

/-- Reads the whole part: a lone zero, or digits of which the first is not zero. -/
def readWhole (cs : List Char) : Option (Nat × List Char) :=
  match splitDigits cs with
  | ([], _) => none
  | (d :: d' :: ds, rest) =>
    if d = .zero then none else some (Decimal.value (d :: d' :: ds), rest)
  | ([d], rest) => some (d.val, rest)

/-- Reads the digits after a point; a point needs at least one. -/
def readFraction : List Char → Option (List Decimal.Digit × List Char)
  | '.' :: cs => match splitDigits cs with
    | ([], _) => none
    | split => some split
  | cs => some ([], cs)

/-- Reads a signed number that may have leading zeros, up to the end of the text. -/
def readExponentValue (cs : List Char) : Option Int :=
  let (negative, unsigned) := match cs with
    | '+' :: rest => (false, rest)
    | rest => splitMinus rest
  match splitDigits unsigned with
  | ([], _) => none
  | (ds, []) => some (if negative then -(Decimal.value ds : Int) else Decimal.value ds)
  | _ => none

/-- Reads a power of ten, which ends the text. -/
def readExponent : List Char → Option (Option Int)
  | [] => some none
  | c :: cs => if c = 'e' ∨ c = 'E' then (readExponentValue cs).map some else none

/-- The numeral that a whole text spells. -/
def read (cs : List Char) : Option Numeral := do
  let (negative, unsigned) := splitMinus cs
  let (whole, afterWhole) ← readWhole unsigned
  let (fraction, afterFraction) ← readFraction afterWhole
  let exponent ← readExponent afterFraction
  return ⟨negative, whole, fraction, exponent⟩

/-- The characters of a power of ten; `plus` asks for a plus sign before one that is not
negative. -/
def exponentChars (plus : Bool) (e : Int) : List Char :=
  'e' :: (if e < 0 then ['-'] else if plus then ['+'] else []) ++ Decimal.chars e.natAbs

/-- The characters of a numeral; `plus` is about the sign of its power of ten. -/
def chars (plus : Bool) (n : Numeral) : List Char :=
  (if n.negative then ['-'] else [])
    ++ Decimal.chars n.whole
    ++ (if n.fraction.isEmpty then [] else '.' :: n.fraction.map Decimal.Digit.char)
    ++ (n.exponent.map (exponentChars plus)).getD []

end Numeral

end TargetBench
