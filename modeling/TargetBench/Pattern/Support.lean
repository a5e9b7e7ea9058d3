import TargetBench.Pattern.Reader

/-!
# Patterns that can be searched for

Not every pattern can be turned into a machine. Where patterns are about characters, no classes
are known beyond those that list their characters, and neither are the cases of letters or the
borders of words. Where patterns are about bytes, a match must not end inside of a character.

## Main definitions

* `Pattern.Settings`: the flags that matter
* `Pattern.supported?`: the settings after a pattern that can be searched for
* `Pattern.isValid`: whether characters spell such a pattern
-/

namespace TargetBench.Pattern

/-- The flags that matter. -/
structure Settings where
  caseless : Bool
  unicode : Bool

namespace Settings

/-- The flags at the start. -/
def standard : Settings := ⟨false, true⟩

/-- Flags after a change. -/
def change (s : Settings) (c : FlagChange) : Settings :=
  ⟨(c.lookup .caseless).getD s.caseless, (c.lookup .unicode).getD s.unicode⟩

end Settings

/-- Whether a single part can be searched for. -/
def Atom.isSupported (s : Settings) : Atom → Bool
  | char c => !s.caseless || (!s.unicode && c.toNat < 0x80)
  | byte c => if s.unicode then !s.caseless else c.toNat < 0x80
  | dot => s.unicode
  | kind negated => !s.unicode && !negated
  | property => false
  | edge => true
  | wordEdge => !s.unicode

/-- Whether a single part can stand in brackets. -/
def Atom.isSupportedInClass (s : Settings) : Atom → Bool
  | char c => if s.unicode then !s.caseless else c.toNat < 0x80
  | a => a.isSupported s

mutual

/-- Whether a class can be searched for. -/
def CharClass.isSupported (s : Settings) : CharClass → Bool
  | .atom a => a.isSupportedInClass s
  | .range first last => first.isSupportedInClass s && last.isSupportedInClass s
  | .named negated => if s.unicode then !s.caseless else !negated
  | .brackets negated content => (s.unicode || !negated) && content.isSupported s
  | .union parts => CharClass.areSupported s parts
  | .combination left right => left.isSupported s && right.isSupported s

/-- Whether all parts of a class can be searched for. -/
def CharClass.areSupported (s : Settings) : List CharClass → Bool
  | [] => true
  | part :: parts => part.isSupported s && CharClass.areSupported s parts

end

mutual

/-- The settings after a pattern that can be searched for. Those that a group changes end with it,
but choices pass theirs on. -/
def supported? (s : Settings) : Pattern → Option Settings
  | .atom a => if a.isSupported s then some s else none
  | .brackets negated content =>
    if (s.unicode || !negated) && content.isSupported s then some s else none
  | .repetition p => supported? s p
  | .group change p => (supported? (s.change change) p).map fun _ => s
  | .flags change => some (s.change change)
  | .sequence parts => supportedParts? s parts
  | .alternatives parts => supportedParts? s parts

/-- The settings after several patterns. -/
def supportedParts? (s : Settings) : List Pattern → Option Settings
  | [] => some s
  | part :: parts => (supported? s part).bind fun s => supportedParts? s parts

end

/-- How deep patterns may nest. -/
def depthLimit : Nat := 250

/-- Whether characters spell a pattern that can be searched for. -/
def isValid (cs : List Char) : Bool :=
  (ofChars? cs).any fun p => p.depth ≤ depthLimit && (p.supported? .standard).isSome

end TargetBench.Pattern
