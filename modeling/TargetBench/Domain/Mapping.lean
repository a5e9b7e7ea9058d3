import TargetBench.Domain.Permission
import TargetBench.Domain.Replacement

/-!
# Reading the characters of domain names

## Main definitions

* `Domain.Treatment`: what becomes of a character
* `Domain.mapped?`: the characters that a domain name stands for
-/

namespace TargetBench.Domain

/-- What becomes of a character when a domain name is read. -/
inductive Treatment where
  /-- It stays as it is. -/
  | kept
  /-- It counts for nothing. -/
  | dropped
  /-- Others take its place. -/
  | replaced (by_ : List Char)
  /-- No domain name holds it. -/
  | refused
deriving DecidableEq

/-- What becomes of a character. -/
def treatment (c : Char) : Treatment :=
  if isRefused c then .refused
  else if isIgnored c then .dropped
  else match replacement? c with
    | some cs => .replaced cs
    | none => .kept

/-- The characters that a character of a treatment stands for; nothing if it is refused. -/
def Treatment.result? (c : Char) : Treatment → Option (List Char)
  | kept => some [c]
  | dropped => some []
  | replaced cs => some cs
  | refused => none

/-- The characters that one stands for; nothing if no domain name holds it. -/
def mappedChar? (c : Char) : Option (List Char) := (treatment c).result? c

/-- The characters that a domain name stands for, if it can hold all that are given. -/
def mapped? (cs : List Char) : Option (List Char) := (cs.mapM mappedChar?).map List.flatten

end TargetBench.Domain
