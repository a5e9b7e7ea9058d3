import TargetBench.Json.Basic
import TargetBench.Number.Hexadecimal

/-!
# Writing documents

The compact text of a document: no gaps between tokens, members in their order, and only those
characters escaped that cannot stand in a quoted text.

## Main definitions

* `Json.escape`: how a character is written in a quoted text
* `Json.chars`, `Json.compact`: the text of a document
-/

namespace TargetBench.Json

/-- How a character is written in a quoted text. -/
def escape (c : Char) : List Char :=
  match c with
  | '"' => ['\\', '"']
  | '\\' => ['\\', '\\']
  | '\x08' => ['\\', 'b']
  | '\x0c' => ['\\', 'f']
  | '\n' => ['\\', 'n']
  | '\r' => ['\\', 'r']
  | '\t' => ['\\', 't']
  | c =>
    if c.toNat < 0x20 then
      ['\\', 'u', '0', '0', Hexadecimal.lower (c.toNat / 16), Hexadecimal.lower (c.toNat % 16)]
    else [c]

/-- The characters of a quoted text. One that stands for no characters is written empty. -/
def quotedChars (q : Quoted) : List Char :=
  '"' :: (q.getD "").toList.flatMap escape ++ ['"']

/-- The characters of a document that has no parts. -/
def leafChars : Json → List Char
  | .null => "null".toList
  | .bool true => "true".toList
  | .bool false => "false".toList
  | .number n => n.chars true
  | .text q => quotedChars q
  | .array _ => ['[', ']']
  | .object _ => ['{', '}']

mutual

/-- The characters of a document. -/
def chars : Json → List Char
  | .array (x :: xs) => '[' :: chars x ++ itemsChars xs
  | .object ((name, x) :: ms) => '{' :: quotedChars name ++ ':' :: chars x ++ membersChars ms
  | leaf => leafChars leaf

/-- The characters of the items after the first one, and of the bracket after them. -/
def itemsChars : List Json → List Char
  | [] => [']']
  | x :: xs => ',' :: chars x ++ itemsChars xs

/-- The characters of the members after the first one, and of the brace after them. -/
def membersChars : List (Quoted × Json) → List Char
  | [] => ['}']
  | (name, x) :: ms => ',' :: quotedChars name ++ ':' :: chars x ++ membersChars ms

end

/-- The compact text of a document. -/
def compact (doc : Json) : String := String.ofList doc.chars

end TargetBench.Json
