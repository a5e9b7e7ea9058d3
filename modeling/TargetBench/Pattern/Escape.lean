import TargetBench.Number.Hexadecimal
import TargetBench.Pattern.Basic
import TargetBench.Text.Blank

/-!
# Escapes of patterns

What a backslash and the characters after it stand for, and the blanks between the parts of a
pattern.

## Main definitions

* `Pattern.skip`: a pattern without the blanks in front
* `Pattern.escape?`: what a backslash stands for
-/

namespace TargetBench.Pattern

/-! ## Blanks -/

/-- What follows blanks and comments. A comment goes from a number sign to the end of the line;
`inComment` tells whether one has begun. -/
def skipBlanks (inComment : Bool) : List Char → List Char
  | [] => []
  | c :: cs =>
    if inComment then skipBlanks (c ≠ '\n') cs
    else if Text.isBlank c then skipBlanks false cs
    else if c = '#' then skipBlanks true cs
    else c :: cs

/-- What follows blanks and comments, if they do not count. -/
def skip (spaced : Bool) (cs : List Char) : List Char := if spaced then skipBlanks false cs else cs

/-! ## Escapes -/

/-- Characters that have a meaning in patterns. -/
def metaChars : List Char :=
  ['\\', '.', '+', '*', '?', '(', ')', '|', '[', ']', '\x7b', '\x7d', '^', '$', '#', '&', '-', '~']

/-- Whether a backslash in front makes a character stand for itself. -/
def isEscapable (c : Char) : Bool :=
  metaChars.contains c
    || (c.toNat < 0x80 && !c.isAlphanum && c ≠ '<' && c ≠ '>')

/-- The value of so many digits of base 16, and what follows them. -/
def number? (spaced : Bool) : Nat → Nat → List Char → Option (Nat × List Char)
  | 0, n, cs => some (n, cs)
  | count + 1, n, cs => match cs with
    | [] => none
    | c :: cs => (Hexadecimal.digit? c).bind fun d =>
      number? spaced count (16 * n + d) (skip spaced cs)

/-- The character that so many digits of base 16 number, and what follows them. -/
def numbered? (spaced : Bool) (count : Nat) (cs : List Char) : Option (Char × List Char) :=
  (number? spaced count 0 (skip spaced cs)).bind fun (n, rest) =>
    if h : n.isValidChar then some (Char.ofNatAux n h, rest) else none

/-- Letters that stand for control characters after a backslash. -/
def controls : List (Char × Char) :=
  [('a', '\x07'), ('f', '\x0c'), ('t', '\t'), ('n', '\n'), ('r', '\r'), ('v', '\x0b')]

/-- Letters that stand for something else than a single character. -/
def specials : List (Char × Atom) :=
  [('d', .kind false), ('s', .kind false), ('w', .kind false), ('D', .kind true), ('S', .kind true),
    ('W', .kind true), ('p', .property), ('P', .property), ('A', .edge), ('z', .edge),
    ('b', .wordEdge), ('B', .wordEdge), ('<', .wordEdge), ('>', .wordEdge)]

/-- What a backslash stands for, given what follows it. -/
def escape? (spaced : Bool) : List Char → Option (Atom × List Char)
  | [] => none
  | 'x' :: cs => (numbered? spaced 2 cs).map fun (c, rest) => (.byte c, rest)
  | 'u' :: cs => (numbered? spaced 4 cs).map fun (c, rest) => (.char c, rest)
  | 'U' :: cs => (numbered? spaced 8 cs).map fun (c, rest) => (.char c, rest)
  | c :: cs =>
    if isEscapable c then some (.char c, cs)
    else match controls.lookup c, specials.lookup c with
      | some control, _ => some (.char control, cs)
      | none, some a => some (a, cs)
      | none, none => none

end TargetBench.Pattern
