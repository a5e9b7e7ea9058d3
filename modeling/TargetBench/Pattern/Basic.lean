/-!
# Patterns

Patterns that texts are searched for, as trees: characters and classes of characters, repetitions,
sequences, alternatives and groups. Flags change how the rest of a group is read.

## Main definitions

* `Pattern`: patterns
* `Pattern.CharClass`: the content of square brackets
* `Pattern.depth`, `Pattern.CharClass.depth`: how deep a pattern nests
-/

namespace TargetBench

namespace Pattern

/-- What a flag is about. -/
inductive FlagName where
  /-- Letters of either case count the same. -/
  | caseless
  /-- Anchors stand at the ends of lines. -/
  | lines
  /-- A dot stands for line ends too. -/
  | dotAll
  /-- Repetitions take as little as possible. -/
  | sparing
  /-- The pattern is about characters, not bytes. -/
  | unicode
  /-- Line ends may have two characters. -/
  | doubleEnds
  /-- Blanks and comments of the pattern do not count. -/
  | spaced
deriving DecidableEq

/-- Flags with their new settings. -/
abbrev FlagChange := List (FlagName × Bool)

/-- A single part of a pattern. -/
inductive Atom where
  | char (c : Char)
  /-- A character below 256 that is written by its number. -/
  | byte (c : Char)
  | dot
  /-- Digits, blanks or word characters, or all characters but these. -/
  | kind (negated : Bool)
  /-- The characters with a property that is named. -/
  | property
  /-- An end of the text or of a line. -/
  | edge
  /-- The border of a word, or a place that is none. -/
  | wordEdge

/-- The content of square brackets. -/
inductive CharClass where
  | atom (a : Atom)
  | range (first last : Atom)
  /-- A class of ASCII characters that is named. -/
  | named (negated : Bool)
  | brackets (negated : Bool) (content : CharClass)
  | union (parts : List CharClass)
  /-- An intersection or difference. -/
  | combination (left right : CharClass)

/-- A class without characters. -/
def CharClass.nothing : CharClass := .union []

/-- The union of parts, the part itself if there is one. -/
def CharClass.ofParts : List CharClass → CharClass
  | [part] => part
  | parts => .union parts

end Pattern

open Pattern in
/-- A pattern. -/
inductive Pattern where
  | atom (a : Atom)
  | brackets (negated : Bool) (content : CharClass)
  | repetition (p : Pattern)
  | group (change : FlagChange) (p : Pattern)
  /-- Changes flags from here to the end of the group. -/
  | flags (change : FlagChange)
  | sequence (parts : List Pattern)
  | alternatives (parts : List Pattern)

namespace Pattern

/-- The sequence of parts, the part itself if there is one. -/
def ofParts : List Pattern → Pattern
  | [part] => part
  | parts => .sequence parts

/-- The choice between patterns, the pattern itself if there is one. -/
def ofChoices : List Pattern → Pattern
  | [choice] => choice
  | choices => .alternatives choices

mutual

/-- How deep a class nests. -/
def CharClass.depth : CharClass → Nat
  | .atom _ => 0
  | .range _ _ => 0
  | .named _ => 0
  | .brackets _ content => content.depth + 1
  | .union parts => if parts.isEmpty then 0 else CharClass.depthOfParts parts + 1
  | .combination left right => max left.depth right.depth + 1

/-- How deep the deepest part nests. -/
def CharClass.depthOfParts : List CharClass → Nat
  | [] => 0
  | part :: parts => max part.depth (CharClass.depthOfParts parts)

end

mutual

/-- How deep a pattern nests. -/
def depth : Pattern → Nat
  | .atom _ => 0
  | .flags _ => 0
  | .brackets _ content => content.depth + 1
  | .repetition p => p.depth + 1
  | .group _ p => p.depth + 1
  | .sequence parts => if parts.isEmpty then 0 else depthOfParts parts + 1
  | .alternatives parts => depthOfParts parts + 1

/-- How deep the deepest part nests. -/
def depthOfParts : List Pattern → Nat
  | [] => 0
  | part :: parts => max part.depth (depthOfParts parts)

end

end Pattern

end TargetBench
