import TargetBench.Pattern.Escape

/-!
# Square brackets

The classes of characters that stand in square brackets: characters, ranges, named classes, and
classes in brackets of their own, joined or combined by signs that stand twice.

## Main definitions

* `Pattern.class?`: the class that brackets enclose
-/

namespace TargetBench.Pattern

/-- Brackets that are being read. -/
structure OpenBracket where
  negated : Bool
  /-- The parts since the last sign, the last one first. -/
  parts : List CharClass
  /-- What stands in front of the last sign. -/
  left : Option CharClass

namespace OpenBracket

/-- Adds a part. -/
def add (b : OpenBracket) (part : CharClass) : OpenBracket := { b with parts := part :: b.parts }

/-- What has been read so far. -/
def content (b : OpenBracket) : CharClass :=
  let right := CharClass.ofParts b.parts.reverse
  match b.left with
  | some left => .combination left right
  | none => right

/-- Goes on behind a sign. -/
def combine (b : OpenBracket) : OpenBracket := { b with parts := [], left := some b.content }

end OpenBracket

/-- The names of classes of ASCII characters. -/
def classNames : List String :=
  ["alnum", "alpha", "ascii", "blank", "cntrl", "digit", "graph", "lower", "print", "punct",
    "space", "upper", "word", "xdigit"]

/-- The named class that follows an opening bracket. Another bracket and a colon enclose it. -/
def named? : List Char → Option (CharClass × List Char)
  | ':' :: cs =>
    let (negated, cs) := match cs with
      | '^' :: cs => (true, cs)
      | cs => (false, cs)
    match cs.dropWhile (· ≠ ':') with
    | ':' :: ']' :: rest =>
      if classNames.contains (String.ofList (cs.takeWhile (· ≠ ':'))) then
        some (.named negated, rest)
      else none
    | _ => none
  | _ => none

/-- The part that a character by itself is. -/
def ofChar (c : Char) : CharClass := .atom (.char c)

/-- The dashes in front, each of them a part, and what follows them. The number bounds how many
there are. -/
def leadingDashes (spaced : Bool) : Nat → List Char → List CharClass × List Char
  | fuel + 1, '-' :: cs =>
    let (parts, rest) := leadingDashes spaced fuel (skip spaced cs)
    (ofChar '-' :: parts, rest)
  | _, cs => ([], cs)

/-- Brackets that have been opened. A circumflex comes first, then dashes, and in front of
everything else a closing bracket is a character; something has to follow. -/
def openBracket? (spaced : Bool) (cs : List Char) : Option (OpenBracket × List Char) :=
  let (negated, cs) := match skip spaced cs with
    | '^' :: cs => (true, skip spaced cs)
    | cs => (false, cs)
  let (parts, cs) := leadingDashes spaced cs.length cs
  let (parts, cs) := match parts, cs with
    | [], ']' :: cs => ([ofChar ']'], skip spaced cs)
    | parts, cs => (parts, cs)
  if cs.isEmpty then none else some (⟨negated, parts, none⟩, cs)

/-- A character in brackets, or what stands for several. -/
def item? (spaced : Bool) : List Char → Option (Atom × List Char)
  | [] => none
  | '\\' :: cs => escape? spaced cs
  | c :: cs => some (.char c, cs)

/-- The character that a part stands for, if it is one. -/
def Atom.char? : Atom → Option Char
  | char c => some c
  | byte c => some c
  | _ => none

/-- The part that an item is; places in a text are none. -/
def CharClass.ofAtom? : Atom → Option CharClass
  | .edge => none
  | .wordEdge => none
  | .dot => none
  | a => some (.atom a)

/-- A range, if both ends are characters in order. -/
def CharClass.ofEnds? (first last : Atom) : Option CharClass := do
  if (← first.char?).toNat ≤ (← last.char?).toNat then some (.range first last) else none

/-- A character or a range. A dash in front of a closing bracket or of another dash makes no
range. -/
def part? (spaced : Bool) (cs : List Char) : Option (CharClass × List Char) := do
  let (first, rest) ← item? spaced cs
  match skip spaced rest with
  | [] => none
  | '-' :: after =>
    let next := skip spaced after
    if next.head? == some ']' || next.head? == some '-' then
      return (← CharClass.ofAtom? first, '-' :: after)
    else
      let (last, rest) ← item? spaced next
      return (← CharClass.ofEnds? first last, rest)
  | rest => return (← CharClass.ofAtom? first, rest)

/-- Reads on in brackets, of which the innermost ones are given first. The number bounds the
steps. -/
def bracketsFrom (spaced : Bool) :
    Nat → List OpenBracket → OpenBracket → List Char → Option (Bool × CharClass × List Char)
  | 0, _, _, _ => none
  | fuel + 1, outer, b, cs => match skip spaced cs with
    | [] => none
    | '[' :: cs => match named? cs with
      | some (part, rest) => bracketsFrom spaced fuel outer (b.add part) rest
      | none => (openBracket? spaced cs).bind fun (inner, rest) =>
        bracketsFrom spaced fuel (b :: outer) inner rest
    | ']' :: cs => match outer with
      | [] => some (b.negated, b.content, cs)
      | next :: outer =>
        bracketsFrom spaced fuel outer (next.add (.brackets b.negated b.content)) cs
    | '&' :: '&' :: cs => bracketsFrom spaced fuel outer b.combine cs
    | '-' :: '-' :: cs => bracketsFrom spaced fuel outer b.combine cs
    | '~' :: '~' :: cs => bracketsFrom spaced fuel outer b.combine cs
    | cs => (part? spaced cs).bind fun (part, rest) =>
      bracketsFrom spaced fuel outer (b.add part) rest

/-- What brackets enclose, given what follows the first one, and whether it is negated. -/
def class? (spaced : Bool) (cs : List Char) : Option (Bool × CharClass × List Char) :=
  (openBracket? spaced cs).bind fun (b, rest) => bracketsFrom spaced (cs.length + 1) [] b rest

end TargetBench.Pattern
