import TargetBench.Toml.Basic
import TargetBench.Toml.Quoted
import TargetBench.Toml.Scalar

/-!
# Reading settings files

## Main definitions

* `Toml.key?`, `Toml.value?`: the key and the value that a file begins with
* `Toml.statements?`: all statements of a file
* `Toml.readText?`: the document of a file
* `Toml.hasSoundMoments`: whether the tables that stand for dates and times are such
-/

namespace TargetBench.Toml

/-! ## Gaps -/

/-- What follows the blanks at the front of a line. -/
def skipGap (cs : List Char) : List Char := cs.dropWhile isGap

/-- What follows a comment, if there is one at the front. -/
def skipComment : List Char → List Char
  | '#' :: cs => cs.dropWhile (· ≠ '\n')
  | cs => cs

/-- What follows blanks, comments and line ends at the front. The first argument bounds the number
of lines. -/
def skipLines : Nat → List Char → List Char
  | 0, cs => cs
  | fuel + 1, cs => match skipComment (skipGap cs) with
    | '\n' :: rest => skipLines fuel rest
    | rest => rest

/-- What follows the end of a line, which the file may end without. -/
def lineEnd? (cs : List Char) : Option (List Char) :=
  match skipComment (skipGap cs) with
  | [] => some []
  | '\n' :: rest => some rest
  | _ => none

/-! ## Keys -/

/-- Whether a character may stand in a name without quotes. -/
def isNameChar (c : Char) : Bool := c.isAlphanum || c = '_' || c = '-'

/-- A name, in quotes or without. -/
def name? (e : Edition) (cs : List Char) : Option (String × List Char) :=
  match cs.takeWhile isNameChar with
  | [] => quotedLine? e cs
  | name => some (String.ofList name, cs.dropWhile isNameChar)

/-- Names with dots between them. The first argument bounds their number. -/
def names? (e : Edition) : Nat → List Char → Option (List String × List Char)
  | 0, _ => none
  | fuel + 1, cs => do
    let (name, rest) ← name? e (skipGap cs)
    match skipGap rest with
    | '.' :: after => (names? e fuel after).map fun (names, rest) => (name :: names, rest)
    | rest => some ([name], rest)

/-- A key, and what follows the blanks after it. -/
def key? (e : Edition) (cs : List Char) : Option (Key × List Char) := do
  let (names, rest) ← names? e e.namesLimit cs
  match names.reverse with
  | name :: way => some (⟨way.reverse, name⟩, rest)
  | [] => none

/-! ## Values -/

/-- Whether a character may stand in a word. -/
def isWordChar (c : Char) : Bool := isNameChar c || c = '+' || c = '.' || c = ':'

/-- The characters of a word. A day and a time of day with a blank between them are one word. -/
def splitWord (cs : List Char) : List Char × List Char :=
  let word := cs.takeWhile isWordChar
  match cs.dropWhile isWordChar with
  | ' ' :: c :: rest =>
    if isDay word && c.isDigit then
      (word ++ ' ' :: (c :: rest).takeWhile isWordChar, (c :: rest).dropWhile isWordChar)
    else (word, ' ' :: c :: rest)
  | rest => (word, rest)

/-- The value of a word. -/
def wordValue? (e : Edition) (cs : List Char) : Option (Json × List Char) :=
  let (word, rest) := splitWord cs
  (word? e word).map (·, rest)

/-- What follows a comma, or the closing bracket. -/
def afterItem (close : Char) : List Char → Option (Bool × List Char)
  | c :: cs => if c = ',' then some (true, cs) else if c = close then some (false, cs) else none
  | [] => none

/-- What follows the gap between the parts of an inline table, which may hold line ends and comments
in the revised edition only. The second argument bounds the number of lines. -/
def skipWithin : Edition → Nat → List Char → List Char
  | .first, _, cs => skipGap cs
  | .revised, fuel, cs => skipLines fuel cs

mutual

/-- The value that a file begins with. The first number bounds the steps that are taken, the
second one how deep brackets may nest. -/
def valueTo (e : Edition) : Nat → Nat → List Char → Option (Json × List Char)
  | 0, _, _ => none
  | fuel + 1, depth, cs => match depth, cs with
    | depth + 1, '[' :: cs =>
      (itemsTo e fuel depth [] cs).map fun (items, rest) => (.array items.reverse, rest)
    | depth + 1, '\x7b' :: cs => match skipWithin e (fuel + 1) cs with
      | '\x7d' :: rest => some (.object [], rest)
      | cs => (membersTo e fuel depth [] cs).bind fun (given, rest) =>
        (inlineTable? given.reverse).map (·, rest)
    | _, '"' :: cs => (quoted? e ('"' :: cs)).map fun (s, rest) => (.ofText s, rest)
    | _, '\'' :: cs => (quoted? e ('\'' :: cs)).map fun (s, rest) => (.ofText s, rest)
    | _, cs => wordValue? e cs

/-- The rest of an array. A comma may follow the last item. -/
def itemsTo (e : Edition) :
    Nat → Nat → List Json → List Char → Option (List Json × List Char)
  | 0, _, _, _ => none
  | fuel + 1, depth, done, cs => match skipLines (fuel + 1) cs with
    | ']' :: rest => some (done, rest)
    | cs => (valueTo e fuel depth cs).bind fun (item, rest) =>
      (afterItem ']' (skipLines (fuel + 1) rest)).bind fun (more, rest) =>
        if more then itemsTo e fuel depth (item :: done) rest else some (item :: done, rest)

/-- The rest of an inline table that is not empty. A comma may follow the last member in the
revised edition. -/
def membersTo (e : Edition) : Nat → Nat → List (Key × Json) → List Char →
    Option (List (Key × Json) × List Char)
  | 0, _, _, _ => none
  | fuel + 1, depth, done, cs => match key? e cs with
    | some (k, '=' :: rest) =>
      (valueTo e fuel depth (skipGap rest)).bind fun (value, rest) =>
        (afterItem '\x7d' (skipWithin e (fuel + 1) rest)).bind fun (more, rest) =>
          if ¬ more then some ((k, value) :: done, rest)
          else match e, skipWithin e (fuel + 1) rest with
            | .revised, '\x7d' :: rest => some ((k, value) :: done, rest)
            | _, rest => membersTo e fuel depth ((k, value) :: done) rest
    | _ => none

end

/-- The value that a file begins with. -/
def value? (e : Edition) (cs : List Char) : Option (Json × List Char) :=
  valueTo e (2 * cs.length + 2) e.nestingLimit cs

/-! ## Statements -/

/-- The statement that a line begins with, and what follows it. -/
def statement? (e : Edition) : List Char → Option (Statement × List Char)
  | '[' :: '[' :: cs => match key? e cs with
    | some (k, ']' :: ']' :: rest) => some (.series k, rest)
    | _ => none
  | '[' :: cs => match key? e cs with
    | some (k, ']' :: rest) => some (.header k, rest)
    | _ => none
  | cs => match key? e cs with
    | some (k, '=' :: rest) => (value? e (skipGap rest)).map fun (v, rest) => (.assign k v, rest)
    | _ => none

/-- All statements of a file, each on a line of its own. The first argument bounds the number of
lines; the statements read so far are given, the last one first. -/
def statementsFrom (e : Edition) : Nat → List Statement → List Char → Option (List Statement)
  | 0, _, _ => none
  | fuel + 1, done, cs => match skipLines (fuel + 1) cs with
    | [] => some done.reverse
    | cs => (statement? e cs).bind fun (s, rest) =>
      (lineEnd? rest).bind (statementsFrom e fuel (s :: done))

/-- All statements of a file. -/
def statements? (e : Edition) (cs : List Char) : Option (List Statement) :=
  statementsFrom e (cs.length + 1) [] cs

/-! ## Files -/

/-- Whether a character may stand in a file. -/
def isAllowed (c : Char) : Bool := c = '\t' || c = '\n' || (0x20 ≤ c.toNat && c.toNat ≠ 0x7F)

/-- Characters with each line end written as a single character. -/
def uniformLines : List Char → List Char
  | '\r' :: '\n' :: cs => '\n' :: uniformLines cs
  | c :: cs => c :: uniformLines cs
  | [] => []

/-- Characters without the mark that shows the order of bytes. -/
def withoutMark : List Char → List Char
  | '\ufeff' :: cs => cs
  | cs => cs

/-- The document of a file. -/
def readText? (e : Edition) (s : String) : Option Json :=
  let cs := uniformLines (withoutMark s.toList)
  if cs.all isAllowed then (statements? e cs).bind document? else none

/-! ## Tables that stand for moments -/

/-- Whether a document is a text that is a date or time of an edition. -/
def isMomentText (e : Edition) : Json → Bool
  | .text (some s) => isMoment e s.toList
  | _ => false

/-- What the name of moments stands for in a table, if no other name stands before it in order. -/
def leadingMoment? (members : List (Quoted × Json)) : Option Json :=
  if members.all fun m => m.1.all fun name => !decide (name < momentName) then
    members.lookup (some momentName)
  else none

mutual

/-- Whether each table that has the name of moments in front stands for a date or time of an
edition. Such a table is not looked into. -/
def hasSoundMoments (e : Edition) : Json → Bool
  | .array items => haveSoundMoments e items
  | .object members => match leadingMoment? members with
    | some doc => isMomentText e doc
    | none => membersHaveSoundMoments e members
  | _ => true

/-- Whether the moments of all documents are sound. -/
def haveSoundMoments (e : Edition) : List Json → Bool
  | [] => true
  | item :: items => hasSoundMoments e item && haveSoundMoments e items

/-- Whether the moments of all members are sound. -/
def membersHaveSoundMoments (e : Edition) : List (Quoted × Json) → Bool
  | [] => true
  | (_, doc) :: members => hasSoundMoments e doc && membersHaveSoundMoments e members

end

end TargetBench.Toml
