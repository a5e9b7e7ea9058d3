import TargetBench.Number.Hexadecimal
import TargetBench.Text.Cut

/-!
# Sets of characters

Sets of characters by ranges of their numbers. The data of a property of characters is kept in rows
of words. A word is a number in base 16, or the first and last number of a range: a dash between
them stands for all numbers of the range, a tilde for every second one.

## Main definitions

* `CharRange`: ranges of characters
* `CharSet`: sets of characters
* `CharTable`: characters with numbers that belong to them
* `CharSet.ofRows`, `CharTable.ofRows`: what rows of words describe
-/

namespace TargetBench

/-- Characters from a first to a last one, each a step after the one before it. -/
structure CharRange where
  first : Nat
  last : Nat
  step : Nat

/-- A set of characters. -/
structure CharSet where
  ranges : List CharRange

/-- Ranges of characters with the numbers that belong to them. -/
structure CharTable where
  entries : List (CharRange × List Nat)

namespace CharRange

/-- Whether a character is in a range. -/
def contains (r : CharRange) (c : Char) : Bool :=
  r.first ≤ c.toNat && c.toNat ≤ r.last && (c.toNat - r.first) % r.step = 0

/-- The range that a word names. -/
def ofWord? (word : String) : Option CharRange :=
  match Text.cut? "-" word, Text.cut? "~" word with
  | some (first, last), _ => do
    return ⟨← Hexadecimal.value? first.toList, ← Hexadecimal.value? last.toList, 1⟩
  | none, some (first, last) => do
    return ⟨← Hexadecimal.value? first.toList, ← Hexadecimal.value? last.toList, 2⟩
  | none, none => do
    let n ← Hexadecimal.value? word.toList
    return ⟨n, n, 1⟩

end CharRange

namespace CharSet

/-- Whether a character is in a set. -/
def contains (s : CharSet) (c : Char) : Bool := s.ranges.any fun r => r.contains c

/-- The set that rows of words describe. -/
def ofRows (rows : List String) : CharSet :=
  ⟨rows.flatMap fun row => (Text.pieces ' ' row).filterMap CharRange.ofWord?⟩

end CharSet

namespace CharTable

/-- The range in which a character is found, and the numbers that belong to it. -/
def find? (t : CharTable) (c : Char) : Option (CharRange × List Nat) :=
  t.entries.find? fun e => e.1.contains c

/-- The entry that a word describes: a range, the sign `>`, and numbers with dots between them. -/
def entryOfWord? (word : String) : Option (CharRange × List Nat) := do
  let (range, numbers) ← Text.cut? ">" word
  let values ← (Text.pieces '.' numbers).mapM fun n => Hexadecimal.value? n.toList
  return (← CharRange.ofWord? range, values)

/-- The table that rows of words describe. -/
def ofRows (rows : List String) : CharTable :=
  ⟨rows.flatMap fun row => (Text.pieces ' ' row).filterMap entryOfWord?⟩

end CharTable

end TargetBench
