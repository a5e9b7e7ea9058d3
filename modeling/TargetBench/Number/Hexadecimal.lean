/-!
# Hexadecimal digits

## Main definitions

* `Hexadecimal.digit?`: the value of a digit of either case
* `Hexadecimal.value?`: the number that digits spell
* `Hexadecimal.lower`, `Hexadecimal.upper`: the digit of a value
-/

namespace TargetBench.Hexadecimal

/-- The value of a digit, which may have either case. -/
def digit? (c : Char) : Option Nat :=
  if '0' ≤ c ∧ c ≤ '9' then some (c.toNat - '0'.toNat)
  else if 'a' ≤ c ∧ c ≤ 'f' then some (c.toNat - 'a'.toNat + 10)
  else if 'A' ≤ c ∧ c ≤ 'F' then some (c.toNat - 'A'.toNat + 10)
  else none

/-- The number that digits spell; no digits spell none. -/
def value? (cs : List Char) : Option Nat :=
  if cs.isEmpty then none else (cs.mapM digit?).map fun ds => ds.foldl (fun n d => 16 * n + d) 0

/-- The digit of a value, in lower case. -/
def lower (n : Nat) : Char :=
  if n < 10 then Char.ofNat ('0'.toNat + n) else Char.ofNat ('a'.toNat + (n - 10))

/-- The digit of a value, in upper case. -/
def upper (n : Nat) : Char :=
  if n < 10 then Char.ofNat ('0'.toNat + n) else Char.ofNat ('A'.toNat + (n - 10))

/-- A digit of lower case has the value that it was made for. -/
theorem digit?_lower : ∀ n : Fin 16, digit? (lower n.val) = some n.val := by decide

end TargetBench.Hexadecimal
