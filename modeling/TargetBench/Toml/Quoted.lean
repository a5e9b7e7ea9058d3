import TargetBench.Number.Hexadecimal
import TargetBench.Toml.Edition

/-!
# Quoted texts of settings files

Texts in double quotes hold escapes, of which the revised edition has two more, and texts in single
quotes do not. Three quotes open a text of several lines, in which the first line end does not
count, and a backslash at the end of a line takes away all blanks up to the next character.

## Main definitions

* `Toml.Scan`: readers of a part of a file
* `Toml.quoted?`: the text that quotes enclose
-/

namespace TargetBench.Toml

/-- A reader of what a file begins with, which gives what it has read and what follows. -/
abbrev Scan (α : Type) := List Char → Option (α × List Char)

/-- Whether a character is a blank inside a line. -/
def isGap (c : Char) : Bool := c = ' ' || c = '\t'

/-- The character that digits of base 16 number. -/
def numbered? (digits : List Char) : Option Char := do
  let n := (← digits.mapM Hexadecimal.digit?).foldl (fun n d => 16 * n + d) 0
  if h : n.isValidChar then some (Char.ofNatAux n h) else none

/-- The character that an escape of so many digits stands for. -/
def numberedEscape? (count : Nat) (cs : List Char) : Option (Char × List Char) :=
  if (cs.take count).length < count then none
  else (numbered? (cs.take count)).map (·, cs.drop count)

/-- The character that follows a backslash, or that its escape stands for. -/
def escape? (e : Edition) : Scan Char
  | 'b' :: cs => some ('\x08', cs)
  | 't' :: cs => some ('\t', cs)
  | 'n' :: cs => some ('\n', cs)
  | 'f' :: cs => some ('\x0c', cs)
  | 'r' :: cs => some ('\r', cs)
  | '"' :: cs => some ('"', cs)
  | '\\' :: cs => some ('\\', cs)
  | 'u' :: cs => numberedEscape? 4 cs
  | 'U' :: cs => numberedEscape? 8 cs
  | 'e' :: cs => if e = .revised then some ('\x1b', cs) else none
  | 'x' :: cs => if e = .revised then numberedEscape? 2 cs else none
  | _ => none

/-- What follows a line that is broken by a backslash at its end. -/
def continued? (cs : List Char) : Option (List Char) :=
  match cs.dropWhile isGap with
  | '\n' :: rest => some (rest.dropWhile fun c => isGap c || c = '\n')
  | _ => none

/-- The rest of a text in double quotes on one line; what has been read stands in `done`, the last
character first. The first argument bounds the number of characters. -/
def basicFrom (e : Edition) (fuel : Nat) (done : List Char) (cs : List Char) :
    Option (String × List Char) :=
  match fuel, cs with
  | _, '"' :: cs => some (String.ofList done.reverse, cs)
  | fuel + 1, '\\' :: cs => (escape? e cs).bind fun (c, cs) => basicFrom e fuel (c :: done) cs
  | _, '\n' :: _ => none
  | fuel + 1, c :: cs => basicFrom e fuel (c :: done) cs
  | _, _ => none

/-- The rest of a text in single quotes on one line. -/
def literalFrom (done : List Char) : Scan String
  | '\'' :: cs => some (String.ofList done.reverse, cs)
  | '\n' :: _ => none
  | c :: cs => literalFrom (c :: done) cs
  | [] => none

/-- How many quotes may stand at the end of a text of several lines. -/
def closingLimit : Nat := 5

/-- The quotes at the front, and what follows them. Three or more end a text of several lines, the
last three of them being its end; the result then tells how many belong to the text. -/
def closing? (quote : Char) (cs : List Char) : Option (Nat × List Char) :=
  let count := min closingLimit (cs.takeWhile (· = quote)).length
  if count < 3 then none else some (count - 3, cs.drop count)

/-- The rest of a text of several lines. Only double quotes have escapes. The first argument bounds
the number of characters. -/
def linesFrom (e : Edition) (quote : Char) (fuel : Nat) (done : List Char) (cs : List Char) :
    Option (String × List Char) :=
  match fuel, cs with
  | 0, _ => none
  | _, [] => none
  | fuel + 1, c :: rest =>
    if c = quote then match closing? quote cs with
      | some (count, after) =>
        some (String.ofList (done.reverse ++ List.replicate count quote), after)
      | none => linesFrom e quote fuel (c :: done) rest
    else if c = '\\' && quote = '"' then match continued? rest with
      | some after => linesFrom e quote fuel done after
      | none => (escape? e rest).bind fun (x, after) => linesFrom e quote fuel (x :: done) after
    else linesFrom e quote fuel (c :: done) rest

/-- What follows the line end that a text of several lines may begin with. -/
def afterOpening : List Char → List Char
  | '\n' :: cs => cs
  | cs => cs

/-- The text in quotes on one line that a file begins with. -/
def quotedLine? (e : Edition) : Scan String
  | '"' :: cs => basicFrom e (cs.length + 1) [] cs
  | '\'' :: cs => literalFrom [] cs
  | _ => none

/-- The text in quotes that a file begins with. -/
def quoted? (e : Edition) : Scan String
  | '"' :: '"' :: '"' :: cs => linesFrom e '"' (cs.length + 1) [] (afterOpening cs)
  | '\'' :: '\'' :: '\'' :: cs => linesFrom e '\'' (cs.length + 1) [] (afterOpening cs)
  | cs => quotedLine? e cs

end TargetBench.Toml
