import TargetBench.Character.Direction
import TargetBench.Character.Joining
import TargetBench.Character.Mark
import TargetBench.Character.Normal
import TargetBench.Domain.Mapping
import TargetBench.Domain.Punycode

/-!
# Labels of domain names

A label is a part of a domain name between dots. It may be written in ASCII by a sign in front and
letters and digits, which stand for its characters. Labels with characters beyond ASCII obey rules:
they do not start with a mark, and invisible joiners stand only where writing needs them. If any
label of a domain name is written leftwards, the characters of each label have to keep one
direction.

## Main definitions

* `Domain.label?`: the characters of a label
* `Domain.keepsDirection`: whether a label can be read in one direction
-/

namespace TargetBench.Domain

/-- Whether all characters are ASCII. -/
def isAscii (cs : List Char) : Bool := cs.all fun c => c.toNat < 0x80

/-! ## Joiners -/

/-- The class of marks that silence a vowel. -/
def silencerClass : Nat := 9

/-- Whether a mark that silences a vowel stands in front; the character in front is given first. -/
def followsSilencer (before : List Char) : Bool :=
  before.head?.any fun c => Character.combiningClass c = silencerClass

/-- Whether the first character that is not joined across has a property. -/
def nextTo (property : Char → Bool) (cs : List Char) : Bool :=
  (cs.dropWhile Character.isTransparent).head?.any property

/-- Whether each joiner stands where writing needs it. What stands in front of the characters is
given, the last character first. A joiner follows a mark that silences a vowel; one that keeps its
neighbours apart may also stand between characters that would join. -/
def hasSoundJoiners (before : List Char) : List Char → Bool
  | [] => true
  | c :: after =>
    (if c = '\u200c' then
      followsSilencer before
        || (nextTo Character.joinsNext before && nextTo Character.joinsPrevious after)
    else if c = '\u200d' then followsSilencer before
    else true) && hasSoundJoiners (c :: before) after

/-! ## Directions -/

/-- Whether a label has characters that are written leftwards. -/
def isLeftwards (label : List Char) : Bool :=
  label.any fun c => [.leftwards, .arabicNumber].contains (Character.direction c)

/-- Whether a label can be read in one direction, which its first character sets. -/
def keepsDirection (label : List Char) : Bool :=
  let directions := label.map Character.direction
  let last := (directions.reverse.dropWhile (· = .mark)).head?
  match directions.head? with
  | none => true
  | some .rightwards =>
    directions.all ([.rightwards, .number, .neutral, .mark].contains ·)
      && last.any ([.rightwards, .number].contains ·)
  | some .leftwards =>
    directions.all ([.leftwards, .number, .arabicNumber, .neutral, .mark].contains ·)
      && last.any ([.leftwards, .number, .arabicNumber].contains ·)
      && !(directions.contains .number && directions.contains .arabicNumber)
  | some _ => false

/-! ## Labels -/

/-- The sign in front of labels in letters and digits. -/
def encodedMark : List Char := "xn--".toList

/-- How many characters a label may have that would have to be written in letters and digits. -/
def lengthLimit : Nat := 1000

/-- How many letters and digits a label may have. -/
def encodedLimit : Nat := 2000

/-- Whether characters can be a label beyond ASCII. -/
def isSound (label : List Char) : Bool :=
  !(label.head?.any Character.isMark) && hasSoundJoiners [] label

/-- Whether characters are what a domain name stands for, none of them to be replaced. -/
def isSettled (label : List Char) : Bool :=
  label.all (fun c => treatment c = .kept) && Character.composedForm label = label

/-- The characters that letters and digits stand for. They have to need such writing. -/
def decoded? (digits : List Char) : Option (List Char) :=
  if digits.isEmpty || digits.getLast? == some '-' || encodedLimit < digits.length then none
  else (Punycode.decode? digits).filter fun label =>
    isSettled label && isSound label && !encodedMark.isPrefixOf label

/-- The characters of a label. -/
def label? (label : List Char) : Option (List Char) :=
  if encodedMark.isPrefixOf label then
    if isAscii label then decoded? (label.drop encodedMark.length) else none
  else if isAscii label || (label.length ≤ lengthLimit && isSound label) then some label
  else none

end TargetBench.Domain
