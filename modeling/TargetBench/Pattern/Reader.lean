import TargetBench.Character.Letter
import TargetBench.Pattern.Bracket
import TargetBench.Text.Cut

/-!
# Reading patterns

## Main definitions

* `Pattern.Reading`: a pattern that is being read
* `Pattern.ofChars?`: the pattern that characters spell
-/

namespace TargetBench.Pattern

/-! ## Flags -/

/-- The letters of flags. -/
def flagLetters : List (Char × FlagName) :=
  [('i', .caseless), ('m', .lines), ('s', .dotAll), ('U', .sparing), ('u', .unicode),
    ('R', .doubleEnds), ('x', .spaced)]

/-- Flags up to a colon or closing parenthesis, which is given too. Those behind a dash are taken
away; there is one dash at most, and something behind it. -/
def flagsFrom (setting : Bool) (done : FlagChange) :
    List Char → Option (FlagChange × Char × List Char)
  | [] => none
  | '-' :: cs =>
    if setting = false ∨ cs.head? = some ':' ∨ cs.head? = some ')' then none
    else flagsFrom false done cs
  | c :: cs =>
    if c = ':' ∨ c = ')' then some (done, c, cs)
    else (flagLetters.lookup c).bind fun name =>
      if done.any fun f => f.1 = name then none else flagsFrom setting ((name, setting) :: done) cs

/-! ## Names -/

/-- Whether characters are the name of a group. -/
def isGroupName : List Char → Bool
  | [] => false
  | c :: cs => (c = '_' || Character.isAlphabetic c) && cs.all fun c =>
      ['_', '.', '[', ']'].contains c || Character.isAlphanumeric c

/-- The name of a group in front of a closing angle bracket. -/
def groupName? (cs : List Char) : Option (List Char × List Char) :=
  match cs.takeWhile (· ≠ '>'), cs.dropWhile (· ≠ '>') with
  | name, '>' :: rest => if isGroupName name then some (name, rest) else none
  | _, _ => none

/-! ## Groups -/

/-- A group that is being read. -/
structure OpenGroup where
  change : FlagChange
  /-- The choices that are complete, the last one first. -/
  choices : List Pattern
  /-- The parts of the current choice, the last one first. -/
  parts : List Pattern
  /-- Whether blanks count outside of the group. -/
  outerSpaced : Bool

namespace OpenGroup

/-- A group that has just been opened. -/
def fresh (change : FlagChange) (outerSpaced : Bool) : OpenGroup := ⟨change, [], [], outerSpaced⟩

/-- Adds a part. -/
def add (g : OpenGroup) (p : Pattern) : OpenGroup := { g with parts := p :: g.parts }

/-- Begins the next choice. -/
def choose (g : OpenGroup) : OpenGroup :=
  { g with choices := .ofParts g.parts.reverse :: g.choices, parts := [] }

/-- What has been read. -/
def content (g : OpenGroup) : Pattern := .ofChoices g.choose.choices.reverse

/-- Repeats the last part. -/
def repeat? (g : OpenGroup) : Option OpenGroup :=
  match g.parts with
  | [] => none
  | .flags _ :: _ => none
  | p :: parts => some { g with parts := .repetition p :: parts }

end OpenGroup

/-- A pattern that is being read. -/
structure Reading where
  /-- The groups around the innermost one, that one's neighbour first. -/
  outer : List OpenGroup
  /-- The innermost group. -/
  group : OpenGroup
  /-- The names of groups so far. -/
  names : List (List Char)
  /-- Whether blanks do not count. -/
  spaced : Bool
  /-- What has not been read. -/
  rest : List Char

namespace Reading

/-- The start. -/
def fresh (cs : List Char) : Reading := ⟨[], .fresh [] false, [], false, cs⟩

/-- Adds a part and goes on behind it. -/
def add (r : Reading) (p : Pattern) (rest : List Char) : Reading :=
  { r with group := r.group.add p, rest }

/-- Opens a group. -/
def opened (r : Reading) (change : FlagChange) (rest : List Char) : Reading :=
  { r with
    outer := r.group :: r.outer
    group := .fresh change r.spaced
    spaced := (change.lookup .spaced).getD r.spaced
    rest }

/-- Opens a group with a name of its own. -/
def named? (r : Reading) (cs : List Char) : Option Reading :=
  (groupName? cs).bind fun (name, rest) =>
    if r.names.contains name then none
    else some ({ r with names := name :: r.names }.opened [] rest)

/-- What follows an opening parenthesis. Nothing can be asked about the text around a match. -/
def parenthesis? (r : Reading) (cs : List Char) : Option Reading :=
  match skip r.spaced cs with
  | '?' :: 'P' :: '<' :: cs => r.named? cs
  | '?' :: '<' :: cs =>
    if cs.head? = some '=' ∨ cs.head? = some '!' then none else r.named? cs
  | '?' :: cs => (flagsFrom true [] cs).bind fun (change, mark, rest) =>
    if mark = ':' then some (r.opened change rest)
    else if change.isEmpty then none
    else some { r.add (.flags change) rest with
      spaced := (change.lookup .spaced).getD r.spaced }
  | cs => some (r.opened [] cs)

/-- Closes the innermost group. -/
def closed? (r : Reading) (rest : List Char) : Option Reading :=
  match r.outer with
  | [] => none
  | next :: outer => some { r with
      outer
      group := next.add (.group r.group.change r.group.content)
      spaced := r.group.outerSpaced
      rest }

/-- Repeats the last part. A question mark may follow. -/
def repeated? (r : Reading) (cs : List Char) : Option Reading :=
  r.group.repeat?.map fun group =>
    { r with group, rest := match cs with
      | '?' :: cs => cs
      | cs => cs }

/-- Reads the next part, whose first character is given with what follows it. Braces would enclose
how often the last part is repeated, which no pattern tells. -/
def advance? (r : Reading) (c : Char) (cs : List Char) : Option Reading :=
  match c with
  | '(' => r.parenthesis? cs
  | ')' => r.closed? cs
  | '|' => some { r with group := r.group.choose, rest := cs }
  | '[' => (class? r.spaced cs).map fun (negated, content, rest) =>
    r.add (.brackets negated content) rest
  | '?' => r.repeated? cs
  | '*' => r.repeated? cs
  | '+' => r.repeated? cs
  | '\x7b' => none
  | '\\' => (escape? r.spaced cs).map fun (a, rest) => r.add (.atom a) rest
  | '.' => some (r.add (.atom .dot) cs)
  | '^' => some (r.add (.atom .edge) cs)
  | '$' => some (r.add (.atom .edge) cs)
  | c => some (r.add (.atom (.char c)) cs)

/-- Reads to the end; the number bounds the steps. -/
def finish? : Nat → Reading → Option Pattern
  | 0, _ => none
  | fuel + 1, r => match skip r.spaced r.rest with
    | [] => if r.outer.isEmpty then some r.group.content else none
    | c :: cs => (r.advance? c cs).bind (finish? fuel)

end Reading

/-- The pattern that characters spell. -/
def ofChars? (cs : List Char) : Option Pattern := Reading.finish? (cs.length + 1) (.fresh cs)

end TargetBench.Pattern
