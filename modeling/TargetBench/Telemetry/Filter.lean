import TargetBench.Configuration.Mode
import TargetBench.Pattern.Support

/-!
# Log filters

Which texts are filters of the log: directives between commas. A directive is a level, or the name
of a part of the program, or such a name and a span in square brackets; a level may follow an equals
sign. A span may hold a field in braces, with a value or a pattern for its values.

Blanks around a directive do not count while it is taken apart. Its parts are then found by how many
bytes stand in front of them, and these are counted off in the directive as it was given, so blanks
in front move every part.

## Main definitions

* `LogFilter.isLevel`: levels
* `LogFilter.isField`: fields
* `LogFilter.Stage`: how far a directive has been read
* `LogFilter.isDirective`: directives
* `LogFilter.isValid`: filters
-/

namespace TargetBench.LogFilter

/-! ## Levels -/

/-- The names of levels. -/
def levelNames : List String := ["error", "warn", "info", "debug", "trace", "off"]

/-- Whether characters are a level: a name, or a number below six. No characters are one too. -/
def isLevel (cs : List Char) : Bool :=
  cs.isEmpty || (Decimal.positive? cs).any (· < 6)
    || levelNames.contains (Mode.lowerCase (String.ofList cs))

/-! ## Fields -/

/-- Whether characters are a power of ten, or nothing. -/
def isPower : List Char → Bool
  | [] => true
  | '+' :: digits => !digits.isEmpty && digits.all Char.isDigit
  | '-' :: digits => !digits.isEmpty && digits.all Char.isDigit
  | digits => !digits.isEmpty && digits.all Char.isDigit

/-- Whether characters are digits with a point among them or none, and then possibly a power of
ten. -/
def isDecimal (cs : List Char) : Bool :=
  let isMark (c : Char) : Bool := c = 'e' || c = 'E'
  let power := match cs.dropWhile (!isMark ·) with
    | [] => true
    | _ :: power => !power.isEmpty && isPower power
  let digits := (Text.piecesOf '.' (cs.takeWhile (!isMark ·)))
  power && digits.length ≤ 2 && digits.any (!·.isEmpty) && digits.all (·.all Char.isDigit)

/-- Whether characters are a number, which may be infinite or none. -/
def isNumber (cs : List Char) : Bool :=
  let size := match cs with
    | '+' :: size => size
    | '-' :: size => size
    | size => size
  isDecimal size
    || ["inf", "infinity", "nan"].contains (Mode.lowerCase (String.ofList size))

/-- Whether characters are a field: a name, and possibly a value after an equals sign. What follows
another equals sign does not count. -/
def isField (cs : List Char) : Bool :=
  !cs.isEmpty && match Text.piecesOf '=' cs with
    | _ :: value :: _ => isNumber value || Pattern.isValid value
    | _ => true

/-! ## Directives -/

/-- The characters that have at least so many bytes in front of them. -/
def fromByte (count : Nat) : List Char → List Char
  | [] => []
  | c :: cs => if count = 0 then c :: cs else fromByte (count - c.utf8Size) cs

/-- The characters that have fewer bytes in front of them. -/
def beforeByte (count : Nat) : List Char → List Char
  | [] => []
  | c :: cs => if count = 0 then [] else c :: beforeByte (count - c.utf8Size) cs

/-- The characters between two numbers of bytes. -/
def between (first last : Nat) (cs : List Char) : List Char :=
  beforeByte (last - first) (fromByte first cs)

/-- How far a directive has been read; numbers tell how many bytes stand in front of a part. -/
inductive Stage where
  | start
  | name
  | span
  | field (first : Nat)
  | afterField
  | afterSpan
  | level (first : Nat)

/-- Whether a directive may start with a character, square brackets aside. -/
def isFirst (c : Char) : Bool := ['-', ':', '_'].contains c || Character.isAlphanumeric c

namespace Stage

/-- Reads a character in front of which `count` bytes stand. The directive as it was given is known
too. -/
def advance? (given : List Char) (count : Nat) (c : Char) : Stage → Option Stage
  | start => if c = '[' then some span else if isFirst c then some name else none
  | name => some (if c = '=' then level (count + 1) else if c = '[' then span else name)
  | span => some (if c = ']' then afterSpan else if c = '\x7b' then field (count + 1) else span)
  | field first =>
    if c ≠ '\x7d' then some (field first)
    else if isField (between first count given) then some afterField
    else none
  | afterField => if c = ']' then some afterSpan else none
  | afterSpan => if c = '=' then some (level (count + 1)) else none
  | level first => some (level first)

/-- Whether a directive may end. -/
def isEnd (given : List Char) : Stage → Bool
  | name => true
  | afterSpan => true
  | level first => isLevel (fromByte first given)
  | _ => false

/-- Reads characters in front of which `count` bytes stand. -/
def read? (given : List Char) (s : Stage) (count : Nat) : List Char → Option Stage
  | [] => some s
  | c :: cs => (s.advance? given count c).bind fun s => s.read? given (count + c.utf8Size) cs

end Stage

/-- Whether characters are a directive. -/
def isDirective (given : List Char) : Bool :=
  (Stage.start.read? given 0 (Text.trimChars given)).any (·.isEnd given)

/-- Whether a text is a filter. Empty directives do not count. -/
def isValid (s : String) : Bool :=
  (Text.piecesOf ',' s.toList).all fun directive => directive.isEmpty || isDirective directive

end TargetBench.LogFilter
