import TargetBench.Number.Numeral
import TargetBench.Text.Cut
import TargetBench.Toml.Edition

/-!
# Dates and times

Which texts are dates and times: a day, a time of day, or both with a `T` or blank between them,
and then possibly the distance from universal time. In the revised edition a time of day may go
without seconds.

## Main definitions

* `Toml.isMoment`: whether characters are a date or time
-/

namespace TargetBench.Toml

/-- The number that exactly `count` digits spell. -/
def digitsOf? (count : Nat) (cs : List Char) : Option Nat :=
  if cs.length = count then (cs.mapM Decimal.digit?).map Decimal.value else none

/-- Whether a year has a day more. -/
def isLeapYear (year : Nat) : Bool := year % 4 = 0 && (year % 100 ≠ 0 || year % 400 = 0)

/-- How many days a month has. -/
def daysOf (year month : Nat) : Nat :=
  if month = 2 then if isLeapYear year then 29 else 28
  else if [4, 6, 9, 11].contains month then 30
  else 31

/-- Whether characters are a day. -/
def isDay (cs : List Char) : Bool :=
  match Text.piecesOf '-' cs with
  | [year, month, day] => match digitsOf? 4 year, digitsOf? 2 month, digitsOf? 2 day with
    | some year, some month, some day =>
      1 ≤ month && month ≤ 12 && 1 ≤ day && day ≤ daysOf year month
    | _, _, _ => false
  | _ => false

/-- Whether characters are seconds, possibly with a fraction. A minute may have one second more. -/
def isSeconds (cs : List Char) : Bool :=
  match Text.piecesOf '.' cs with
  | [whole] => (digitsOf? 2 whole).any (· ≤ 60)
  | [whole, fraction] =>
    (digitsOf? 2 whole).any (· ≤ 60) && !fraction.isEmpty && fraction.all Char.isDigit
  | _ => false

/-- Whether characters are hours and minutes. -/
def isClock (hour minute : List Char) : Bool :=
  (digitsOf? 2 hour).any (· < 24) && (digitsOf? 2 minute).any (· < 60)

/-- Whether characters are a time of day. -/
def isTime (e : Edition) (cs : List Char) : Bool :=
  match Text.piecesOf ':' cs with
  | [hour, minute, second] => isClock hour minute && isSeconds second
  | [hour, minute] => e = .revised && isClock hour minute
  | _ => false

/-- Whether characters are a distance from universal time, or none. -/
def isOffset : List Char → Bool
  | [] => true
  | ['Z'] => true
  | ['z'] => true
  | sign :: cs => (sign = '+' || sign = '-') && match Text.piecesOf ':' cs with
    | [hour, minute] => isClock hour minute
    | _ => false

/-- Whether a character may stand in a time of day. -/
def isTimeChar (c : Char) : Bool := c.isDigit || c = ':' || c = '.'

/-- How many characters a day has. -/
def dayLength : Nat := 10

/-- Whether characters are a date or time. -/
def isMoment (e : Edition) (cs : List Char) : Bool :=
  isTime e cs || isDay cs ||
    match cs.drop dayLength with
    | mark :: time =>
      isDay (cs.take dayLength) && (mark = 'T' || mark = 't' || mark = ' ')
        && isTime e (time.takeWhile isTimeChar) && isOffset (time.dropWhile isTimeChar)
    | [] => false

end TargetBench.Toml
