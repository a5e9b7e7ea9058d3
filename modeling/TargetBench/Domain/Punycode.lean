/-!
# Labels in letters and digits

A label with characters beyond ASCII can be written in letters, digits and dashes. Its ASCII
characters stand first, then a dash if there are any, and then numbers in base 36, of which each
inserts one of the other characters. A number counts the places that are passed over from one
insertion to the next, where a place is a character together with its position. Its digits stand
lowest first, and the number ends with the first digit below a threshold that follows the size of
the numbers before.

## Main definitions

* `Punycode.Progress`: how far the numbers have been read
* `Punycode.decode?`: the characters of a label
-/

namespace TargetBench.Punycode

/-- The value of a digit of base 36, which may have either case. -/
def digit? (c : Char) : Option Nat :=
  if c.isLower then some (c.toNat - 'a'.toNat)
  else if c.isUpper then some (c.toNat - 'A'.toNat)
  else if c.isDigit then some (c.toNat - '0'.toNat + 26)
  else none

/-! ## Thresholds -/

/-- The first digit that does not end a number, at a place that is 36 times its position. -/
def threshold (bias position : Nat) : Nat := min 26 (max 1 (position - bias))

/-- A distance divided by 35 until it is small, and 36 for each division. -/
def damped (distance count : Nat) : Nat × Nat :=
  if 455 < distance then damped (distance / 35) (count + 36) else (distance, count)
termination_by distance

/-- The bias after a distance was read, with so many characters in place. -/
def adapted (distance characters : Nat) (isFirst : Bool) : Nat :=
  let scaled := if isFirst then distance / 700 else distance / 2
  let (rest, count) := damped (scaled + scaled / characters) 0
  count + 36 * rest / (rest + 38)

/-! ## Numbers -/

/-- How far the numbers of a label have been read. -/
structure Progress where
  /-- The characters that are in place. -/
  text : List Char
  /-- The number of the character that is inserted next, as far as it is known. -/
  point : Nat
  /-- Where it is inserted, as far as it is known. -/
  place : Nat
  /-- Where the number that is being read started. -/
  start : Nat
  bias : Nat
  /-- What the next digit counts. -/
  weight : Nat
  /-- The position of the next digit, times 36. -/
  position : Nat

namespace Progress

/-- The start with the ASCII characters of a label. -/
def fresh (text : List Char) : Progress := ⟨text, 0x80, 0, 0, 72, 1, 36⟩

/-- No number is larger. -/
def numberLimit : Nat := Nat.pow 2 32

/-- Inserts the character that a number tells. -/
def insert? (p : Progress) : Option Progress :=
  let count := p.text.length + 1
  let point := p.point + p.place / count
  let place := p.place % count
  if h : point.isValidChar then
    some ⟨p.text.take place ++ Char.ofNatAux point h :: p.text.drop place, point, place + 1,
      place + 1, adapted (p.place - p.start) count (p.start = 0), 1, 36⟩
  else none

/-- Reads a digit. -/
def advance? (p : Progress) (c : Char) : Option Progress := do
  let d ← digit? c
  let place := p.place + d * p.weight
  if numberLimit ≤ place then none
  else if d < threshold p.bias p.position then insert? { p with place }
  else
    let weight := p.weight * (36 - threshold p.bias p.position)
    if numberLimit ≤ weight then none
    else return { p with place, weight, position := p.position + 36 }

/-- Whether no number has been begun. -/
def isComplete (p : Progress) : Bool := p.position = 36

end Progress

/-! ## Labels -/

/-- The ASCII characters in front of the last dash, and the digits behind it. A dash in front of
everything is none. -/
def split (cs : List Char) : List Char × List Char :=
  let digits := (cs.reverse.takeWhile (· ≠ '-')).reverse
  let front := cs.take (cs.length - digits.length - 1)
  if front.isEmpty then ([], cs) else (front, digits)

/-- The characters of a label in letters and digits. -/
def decode? (cs : List Char) : Option (List Char) :=
  let (text, digits) := split cs
  match digits.foldlM Progress.advance? (.fresh text) with
  | some p => if p.isComplete then some p.text else none
  | none => none

end TargetBench.Punycode
