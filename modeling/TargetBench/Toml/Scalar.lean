import TargetBench.Json.Number
import TargetBench.Number.Hexadecimal
import TargetBench.Toml.Moment

/-!
# Words of settings files

Truth values, numbers and moments, all of which are written without quotes. Underscores may stand
between digits.

## Main definitions

* `Toml.word?`: the document of a word
-/

namespace TargetBench.Toml

/-- Digits without the underscores between them; each underscore needs a digit on both sides. -/
def joinDigits? (isDigit : Char → Bool) (cs : List Char) : Option (List Char) :=
  let groups := Text.piecesOf '_' cs
  if groups.all fun g => !g.isEmpty && g.all isDigit then some groups.flatten else none

/-- Decimal digits, underscores left out. -/
def decimals? (cs : List Char) : Option (List Decimal.Digit) :=
  (joinDigits? Char.isDigit cs).map (·.filterMap Decimal.digit?)

/-- Decimal digits of a whole number, which have no superfluous zero in front. -/
def whole? (cs : List Char) : Option (List Decimal.Digit) :=
  match decimals? cs with
  | some (d :: d' :: ds) => if d = .zero then none else some (d :: d' :: ds)
  | ds => ds

/-- A sign, which is negative or not, and what follows it. -/
def splitSign : List Char → Bool × List Char
  | '-' :: cs => (true, cs)
  | '+' :: cs => (false, cs)
  | cs => (false, cs)

/-- The integer of 64 bits that decimal digits spell. -/
def decimalInteger? (cs : List Char) : Option Int :=
  let (negative, digits) := splitSign cs
  (whole? digits).bind fun ds =>
    let n : Int := if negative then -(Decimal.value ds : Int) else Decimal.value ds
    (Bounded.ofInt? n : Option (Signed 64)).map (·.val)

/-- The integer that digits of another base spell. -/
def baseInteger? (base : Nat) (cs : List Char) : Option Int :=
  let isDigit (c : Char) : Bool := (Hexadecimal.digit? c).any (· < base)
  (joinDigits? isDigit cs).bind fun ds =>
    let n : Nat := (ds.filterMap Hexadecimal.digit?).foldl (fun n d => base * n + d) 0
    (Bounded.ofInt? n : Option (Signed 64)).map (·.val)

/-- The integer that a word spells. -/
def integer? : List Char → Option Int
  | '0' :: 'x' :: cs => baseInteger? 16 cs
  | '0' :: 'o' :: cs => baseInteger? 8 cs
  | '0' :: 'b' :: cs => baseInteger? 2 cs
  | cs => decimalInteger? cs

/-- The power of ten that a word ends in; none if it has none. -/
def power? : List Char → Option Int
  | [] => some 0
  | _ :: cs =>
    let (negative, digits) := splitSign cs
    (decimals? digits).map fun ds =>
      if negative then -(Decimal.value ds : Int) else Decimal.value ds

/-- The number with a fraction or power of ten that an unsigned word spells. -/
def fractional? (negative : Bool) (cs : List Char) : Option Binary64 := do
  let isPower (c : Char) : Bool := c = 'e' || c = 'E'
  let mantissa := cs.takeWhile (!isPower ·)
  let power := cs.dropWhile (!isPower ·)
  let e ← power? power
  let (whole, fraction) ← match Text.piecesOf '.' mantissa with
    | [whole] => if power.isEmpty then none else (whole? whole).map (·, [])
    | [whole, fraction] => (whole? whole).bind fun w => (decimals? fraction).map (w, ·)
    | _ => none
  return Binary.ofDecimal negative (Decimal.value (whole ++ fraction)) (e - fraction.length)

/-- The number that is no integer and that a word spells. A number too large is refused. -/
def float? (cs : List Char) : Option Binary64 :=
  let (negative, size) := splitSign cs
  if size = "inf".toList then some (.infinite negative)
  else if size = "nan".toList then some .nan
  else (fractional? negative size).bind fun x => if x.isInfinite then none else some x

/-- The name under which the document of a moment holds its text. -/
def momentName : String := "$__toml_private_datetime"

/-- The document of a word. -/
def word? (e : Edition) (cs : List Char) : Option Json :=
  if cs = "true".toList then some (.bool true)
  else if cs = "false".toList then some (.bool false)
  else match integer? cs, float? cs with
    | some n, _ => some (.ofInt n)
    | none, some x => some (.ofDouble x)
    | none, none =>
      if isMoment e cs then some (.record [(momentName, .ofText (String.ofList cs))]) else none

end TargetBench.Toml
