import TargetBench.Configuration.Basic
import TargetBench.Json.Overlay
import TargetBench.Text.Cut
import TargetBench.Toml.Quoted

/-!
# Settings in variables

The settings that variables of the surroundings give. A value is read as what it looks like: a
truth value, a number, a text in quotes, a list or table in brackets, or a list between commas;
everything else is a text as it stands.

## Main definitions

* `Variable.value`: what a value looks like
* `Variable.settings`: the settings that variables give
-/

namespace TargetBench.Variable

/-! ## Words -/

/-- Whether a character is a blank between the parts of a value. -/
def isSpace (c : Char) : Bool := [' ', '\t', '\n', '\r', '\x0c'].contains c

/-- Whether a character belongs to a word. -/
def isWordChar (c : Char) : Bool := !([',', '\x7b', '\x7d', '[', ']'].contains c)

/-- Whether a character may stand in a name without quotes. -/
def isNameChar (c : Char) : Bool := c.isAlphanum || c = '_' || c = '-'

/-- A sign, which is negative or not, and what follows it. -/
def splitSign : List Char → Bool × List Char
  | '-' :: cs => (true, cs)
  | '+' :: cs => (false, cs)
  | cs => (false, cs)

/-- The power of ten that a word ends in; none if it has none. -/
def power? : List Char → Option Int
  | [] => some 0
  | _ :: cs =>
    let (negative, digits) := splitSign cs
    (Decimal.natural? digits).map fun n => if negative then -(n : Int) else n

/-- The number with a point that a word spells. The point may stand first or last. -/
def pointed? (word : List Char) : Option Binary64 := do
  let isPower (c : Char) : Bool := c = 'e' || c = 'E'
  let (negative, size) := splitSign word
  let e ← power? (size.dropWhile (!isPower ·))
  match Text.piecesOf '.' (size.takeWhile (!isPower ·)) with
  | [whole, fraction] => do
    let n ← Decimal.natural? (whole ++ fraction)
    return Binary.ofDecimal negative n (e - fraction.length)
  | _ => none

/-- The integer that a word spells and that 64 bits hold. -/
def integer? : List Char → Option Int
  | '-' :: cs => (Decimal.natural? cs).bind fun n =>
    if n ≤ Nat.pow 2 63 then some (-(n : Int)) else none
  | cs => (Decimal.positive? cs).bind fun n => if n < Nat.pow 2 64 then some n else none

/-- What a word looks like. -/
def wordValue (word : List Char) : Json :=
  match pointed? word, integer? word with
  | some x, _ => .ofDouble x
  | none, some n => .ofInt n
  | none, none => .ofText (String.ofList word)

/-! ## Values -/

/-- What follows the blanks at the front. -/
def skipSpace (cs : List Char) : List Char := cs.dropWhile isSpace

/-- What follows a word at the front. -/
def afterWord? (word : String) (cs : List Char) : Option (List Char) :=
  if word.toList.isPrefixOf cs then some (cs.drop word.length) else none

/-- Characters up to the first one with which they would have more than so many bytes. -/
def fitting : Nat → List Char → List Char
  | _, [] => []
  | room, c :: cs => if c.utf8Size ≤ room then c :: fitting (room - c.utf8Size) cs else []

/-- The text in double quotes at the front. It holds the escapes of the first edition of settings
files; of the characters in front of its first escape only so many bytes count as there are
characters. -/
def quoted? (cs : List Char) : Option (String × List Char) :=
  let isAllowed (c : Char) : Bool := c = '\t' || (0x20 ≤ c.toNat && c.toNat ≠ 0x7F)
  let front := cs.takeWhile fun c => c ≠ '"' && c ≠ '\\'
  let after := cs.dropWhile fun c => c ≠ '"' && c ≠ '\\'
  let kept := if after.head? == some '\\' then fitting front.length front else front
  (Toml.basicFrom .first (after.length + 1) kept.reverse after).bind fun (s, rest) =>
    if (cs.take (cs.length - rest.length)).all isAllowed then some (s, rest) else none

/-- The name of a member at the front. -/
def name? : List Char → Option (String × List Char)
  | '"' :: cs => quoted? cs
  | cs => match cs.takeWhile isNameChar with
    | [] => none
    | name => some (String.ofList name, cs.dropWhile isNameChar)

/-- What follows a comma, or the closing bracket. -/
def afterPart (close : Char) : List Char → Option (Bool × List Char)
  | c :: cs => if c = ',' then some (true, cs) else if c = close then some (false, cs) else none
  | [] => none

/-- Named values of which each name keeps its last one. -/
def lastOf (given : List (String × Json)) : List (String × Json) :=
  given.foldr (fun m later => if later.any fun n => n.1 = m.1 then later else m :: later) []

mutual

/-- The value at the front, and what follows it. The first argument bounds the steps that are
taken. -/
def valueTo : Nat → List Char → Option (Json × List Char)
  | 0, _ => none
  | fuel + 1, cs =>
    let cs := skipSpace cs
    match afterWord? "true" cs, afterWord? "false" cs, cs with
    | some rest, _, _ => some (.bool true, skipSpace rest)
    | none, some rest, _ => some (.bool false, skipSpace rest)
    | none, none, '\x7b' :: cs =>
      (membersTo fuel cs).map fun (given, rest) => (.record (lastOf given), skipSpace rest)
    | none, none, '[' :: cs =>
      (itemsTo fuel cs).map fun (items, rest) => (.array items, skipSpace rest)
    | none, none, '"' :: cs => (quoted? cs).map fun (s, rest) => (.ofText s, skipSpace rest)
    | none, none, '\'' :: cs => match cs with
      | c :: '\'' :: rest => some (.ofText (String.ofList [c]), skipSpace rest)
      | _ => none
    | none, none, cs =>
      some (wordValue (Text.trimChars (cs.takeWhile isWordChar)), cs.dropWhile isWordChar)

/-- The rest of a list. -/
def itemsTo : Nat → List Char → Option (List Json × List Char)
  | 0, _ => none
  | _, ']' :: rest => some ([], rest)
  | fuel + 1, cs => (valueTo fuel cs).bind fun (item, rest) =>
    (afterPart ']' rest).bind fun (more, rest) =>
      if more then (itemsTo fuel rest).map fun (items, rest) => (item :: items, rest)
      else some ([item], rest)

/-- The rest of a table. -/
def membersTo : Nat → List Char → Option (List (String × Json) × List Char)
  | 0, _ => none
  | _, '\x7d' :: rest => some ([], rest)
  | fuel + 1, cs => (name? (skipSpace cs)).bind fun (name, rest) =>
    match skipSpace rest with
    | '=' :: rest => (valueTo fuel rest).bind fun (value, rest) =>
      (afterPart '\x7d' rest).bind fun (more, rest) =>
        if more then (membersTo fuel rest).map fun (given, rest) => ((name, value) :: given, rest)
        else some ([(name, value)], rest)
    | _ => none

end

/-- Whether a value is a list between commas without brackets. -/
def isListed (cs : List Char) : Bool :=
  cs.contains ',' && !(['[', '\x7b', '"', '\''].any fun c => cs.head? == some c)

/-- What a value looks like, blanks at its ends aside. A truth value may be written in either case
if it is the whole value. -/
def value (s : String) : Json :=
  let cs := Text.trimChars s.toList
  let lower := cs.map Char.toLower
  if lower = "true".toList then .bool true
  else if lower = "false".toList then .bool false
  else if isListed cs then
    .array ((Text.piecesOf ',' cs).map fun item => .ofText (String.ofList (Text.trimChars item)))
  else match valueTo (2 * cs.length + 2) cs with
    | some (doc, []) => doc
    | _ => .ofText (String.ofList cs)

/-! ## Names -/

/-- What the names of all variables about settings begin with. -/
def mark : String := "HALPROBE_"

/-- Names with two underscores between them; three underscores are two and one. -/
def nested : List Char → List Char
  | '_' :: '_' :: cs => '.' :: nested cs
  | c :: cs => c :: nested cs
  | [] => []

/-- The way to the setting that a variable is about. Letters of either case count the same, two
underscores or a dot lead into a table, and blanks around the mark do not count. -/
def way? (name : String) : Option (List String) :=
  let upper := (Text.trimChars name.toList).map Char.toUpper
  if ¬ mark.toList.isPrefixOf upper then none
  else
    let names := Text.piecesOf '.'
      (Text.trimChars (nested ((upper.drop mark.length).map Char.toLower)))
    if names.any List.isEmpty then none else some (names.map String.ofList)

/-- A value within the tables that lead to it. -/
def within (value : Json) : List String → Json
  | [] => value
  | name :: way => .record [(name, within value way)]

/-- The settings that variables give, each variable laid over those before it. -/
def settings (entries : List (String × String)) : Json :=
  entries.foldl (fun lower (name, text) => match way? name with
    | some way => lower.overlay (within (value text) way)
    | none => lower) (.object [])

end TargetBench.Variable
