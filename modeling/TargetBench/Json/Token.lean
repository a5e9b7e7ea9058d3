import TargetBench.Json.Basic
import TargetBench.Number.Hexadecimal
import TargetBench.Text.Utf8

/-!
# Tokens of documents

Brackets, marks, words, numbers and quoted texts. The tokens are cut out of a symbol sequence in
one pass from left to right.

## Main definitions

* `Json.Token`: tokens
* `Json.Lexer`: the tokens cut out so far and the one that is being read
* `Json.tokens?`: the tokens of a symbol sequence
-/

namespace TargetBench.Json

/-- A token. -/
inductive Token where
  | openArray
  | closeArray
  | openObject
  | closeObject
  | comma
  | colon
  | null
  | bool (b : Bool)
  | number (n : Numeral)
  | text (q : Quoted)

/-- A part of a quoted text. -/
inductive Piece where
  | char (c : Char)
  /-- A 16-bit unit that an escape gives by its number. -/
  | unit (n : Nat)
  | stray

/-- The quoted text that is being read. -/
structure Draft where
  /-- The characters read so far, the last one first. -/
  characters : List Char
  /-- The first half of a surrogate pair, if the last unit was one. -/
  half : Option Nat
  /-- Whether all parts so far stand for characters. -/
  sound : Bool

namespace Draft

/-- Nothing read so far. -/
def empty : Draft := ⟨[], none, true⟩

/-- Whether a 16-bit unit is the first half of a surrogate pair. -/
def isFirstHalf (n : Nat) : Bool := 0xD800 ≤ n && n < 0xDC00

/-- Whether a 16-bit unit is the second half of a surrogate pair. -/
def isSecondHalf (n : Nat) : Bool := 0xDC00 ≤ n && n < 0xE000

/-- Adds a part. A first half has to be followed by a second half, and only then. -/
def add (d : Draft) : Piece → Draft
  | .char c => ⟨c :: d.characters, none, d.sound && d.half.isNone⟩
  | .stray => ⟨d.characters, none, false⟩
  | .unit n => match d.half with
    | some first =>
      if isSecondHalf n then
        ⟨Char.ofNat (0x10000 + (first - 0xD800) * 0x400 + (n - 0xDC00)) :: d.characters, none,
          d.sound⟩
      else ⟨d.characters, none, false⟩
    | none =>
      if isFirstHalf n then ⟨d.characters, some n, d.sound⟩
      else ⟨Char.ofNat n :: d.characters, none, d.sound && !isSecondHalf n⟩

/-- What the text stands for, at its end. -/
def finish (d : Draft) : Quoted :=
  if d.sound && d.half.isNone then some (String.ofList d.characters.reverse) else none

end Draft

/-- What is being read at a place of a document. -/
inductive Lexer.Mode where
  /-- Nothing: the place is between two tokens. -/
  | between
  /-- A word or number, its last character first. -/
  | run (cs : List Char)
  /-- A quoted text. -/
  | text (draft : Draft)
  /-- A quoted text, after a backslash. -/
  | escape (draft : Draft)
  /-- A quoted text, within the number of a unit: its digits still missing, and its value so far. -/
  | unit (draft : Draft) (missing value : Nat)

/-- The tokens cut out so far, the last one first, and what is being read. -/
structure Lexer where
  done : List Token
  mode : Lexer.Mode

/-- What a backslash and a character stand for; `u` is not among these escapes. -/
def escaped? (c : Char) : Option Char :=
  match c with
  | '"' => some '"'
  | '\\' => some '\\'
  | '/' => some '/'
  | 'b' => some '\x08'
  | 'f' => some '\x0c'
  | 'n' => some '\n'
  | 'r' => some '\r'
  | 't' => some '\t'
  | _ => none

/-- Whether a character can be part of a word or number. -/
def isRunChar (c : Char) : Bool := c.isAlphanum || c = '+' || c = '-' || c = '.'

/-- Whether a character may stand between tokens. -/
def isGap (c : Char) : Bool := c = ' ' || c = '\t' || c = '\n' || c = '\r'

/-- The token that a word or number spells. -/
def runToken? (cs : List Char) : Option Token :=
  if cs = ['n', 'u', 'l', 'l'] then some .null
  else if cs = ['t', 'r', 'u', 'e'] then some (.bool true)
  else if cs = ['f', 'a', 'l', 's', 'e'] then some (.bool false)
  else (Numeral.read cs).map .number

/-- The token that a character is by itself. -/
def markToken? (c : Char) : Option Token :=
  match c with
  | '[' => some .openArray
  | ']' => some .closeArray
  | '{' => some .openObject
  | '}' => some .closeObject
  | ',' => some .comma
  | ':' => some .colon
  | _ => none

namespace Lexer

/-- Reads a symbol between two tokens. -/
def start (done : List Token) : Symbol → Option Lexer
  | .stray => none
  | .char c =>
    if isGap c then some ⟨done, .between⟩
    else if c = '"' then some ⟨done, .text .empty⟩
    else if isRunChar c then some ⟨done, .run [c]⟩
    else (markToken? c).map fun t => ⟨t :: done, .between⟩

/-- Reads a symbol of a quoted text. -/
def quote (done : List Token) (draft : Draft) : Symbol → Option Lexer
  | .stray => some ⟨done, .text (draft.add .stray)⟩
  | .char c =>
    if c = '"' then some ⟨.text draft.finish :: done, .between⟩
    else if c = '\\' then some ⟨done, .escape draft⟩
    else if c.toNat < 0x20 then none
    else some ⟨done, .text (draft.add (.char c))⟩

/-- Reads the symbol after a backslash. -/
def escape (done : List Token) (draft : Draft) : Symbol → Option Lexer
  | .stray => none
  | .char c =>
    if c = 'u' then some ⟨done, .unit draft 4 0⟩
    else (escaped? c).map fun e => ⟨done, .text (draft.add (.char e))⟩

/-- Reads a digit of the number of a unit. -/
def unit (done : List Token) (draft : Draft) (missing value : Nat) : Symbol → Option Lexer
  | .stray => none
  | .char c => (Hexadecimal.digit? c).map fun d =>
    let value := 16 * value + d
    if missing ≤ 1 then ⟨done, .text (draft.add (.unit value))⟩
    else ⟨done, .unit draft (missing - 1) value⟩

/-- Reads one symbol. A word or number ends at the first symbol that cannot be part of it. -/
def step (l : Lexer) (s : Symbol) : Option Lexer :=
  match l.mode with
  | .between => start l.done s
  | .text draft => quote l.done draft s
  | .escape draft => escape l.done draft s
  | .unit draft missing value => unit l.done draft missing value s
  | .run cs => match s with
    | .stray => none
    | .char c =>
      if isRunChar c then some ⟨l.done, .run (c :: cs)⟩
      else do start ((← runToken? cs.reverse) :: l.done) s

/-- The tokens, at the end of the sequence. -/
def finish (l : Lexer) : Option (List Token) :=
  match l.mode with
  | .between => some l.done.reverse
  | .run cs => (runToken? cs.reverse).map fun t => (t :: l.done).reverse
  | _ => none

end Lexer

/-- The tokens of a symbol sequence. -/
def tokens? (symbols : List Symbol) : Option (List Token) := do
  (← symbols.foldlM Lexer.step ⟨[], .between⟩).finish

end TargetBench.Json
