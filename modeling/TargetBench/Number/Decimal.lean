/-!
# Decimal digits

The digits of a natural number, most significant first, and the number that digits spell.

## Main definitions

* `Decimal.digits`: the digits of a number, without leading zeros
* `Decimal.value`: the number that digits spell
* `Decimal.natural?`, `Decimal.positive?`: the number that characters spell

## Main results

* `Decimal.value_digits`: reading the digits of a number gives the number
-/

namespace TargetBench.Decimal

/-- One decimal digit. -/
abbrev Digit := Fin 10

/-- The digit zero. -/
def Digit.zero : Digit := ⟨0, by decide⟩

/-- The character of a digit. -/
def Digit.char (d : Digit) : Char := Char.ofNat ('0'.toNat + d.val)

/-- The digit that a character stands for. -/
def digit? (c : Char) : Option Digit :=
  if h : '0'.toNat ≤ c.toNat ∧ c.toNat ≤ '9'.toNat then
    some ⟨c.toNat - '0'.toNat, by have := h.2; have : '9'.toNat = 57 := rfl
                                  have : '0'.toNat = 48 := rfl; omega⟩
  else none

@[simp] theorem digit?_char (d : Digit) : digit? d.char = some d := by
  revert d; decide

/-- The number that digits spell, most significant first. -/
def value (ds : List Digit) : Nat := ds.foldl (fun n d => 10 * n + d.val) 0

/-- The number that characters spell, if they are digits and there is at least one. -/
def natural? (cs : List Char) : Option Nat :=
  if cs.isEmpty then none else (cs.mapM digit?).map value

/-- The number that characters spell, possibly after a plus sign. -/
def positive? : List Char → Option Nat
  | '+' :: cs => natural? cs
  | cs => natural? cs

/-- Puts the digits of `n` in front of `ds`; the first argument bounds the number of digits. -/
def prependDigits : Nat → Nat → List Digit → List Digit
  | 0, _, ds => ds
  | fuel + 1, n, ds =>
    let last : Digit := ⟨n % 10, Nat.mod_lt _ (by decide)⟩
    if n < 10 then last :: ds else prependDigits fuel (n / 10) (last :: ds)

/-- The digits of a number, without leading zeros; zero has the digit 0. -/
def digits (n : Nat) : List Digit := prependDigits (n + 1) n []

/-- The characters of a number in decimal. -/
def chars (n : Nat) : List Char := (digits n).map Digit.char

/-- The text of a number in decimal. -/
def text (n : Nat) : String := String.ofList (chars n)

/-- The text of an integer in decimal, a minus sign before a negative one. -/
def signedText (n : Int) : String :=
  if n < 0 then String.ofList ('-' :: chars n.natAbs) else text n.natAbs

theorem foldl_prependDigits (fuel n : Nat) (ds : List Digit) (h : n < fuel) :
    (prependDigits fuel n ds).foldl (fun n d => 10 * n + d.val) 0 =
      ds.foldl (fun n d => 10 * n + d.val) n := by
  induction fuel generalizing n ds with
  | zero => omega
  | succ fuel ih =>
    unfold prependDigits
    by_cases hn : n < 10
    · simp [hn, Nat.mod_eq_of_lt hn]
    · simp only [hn, if_false]
      rw [ih (n / 10) _ (by omega)]
      simp only [List.foldl_cons]
      congr 1
      omega

@[simp] theorem value_digits (n : Nat) : value (digits n) = n := by
  simpa [value, digits] using foldl_prependDigits (n + 1) n [] (by omega)

end TargetBench.Decimal
