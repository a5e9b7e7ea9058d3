import TargetBench.Json.Token

/-!
# Reading documents

A document is read off its tokens in one pass. What is open at a place is kept on a stack, so a
document may nest to any depth.

## Main definitions

* `Json.Reader`: what has been read so far
* `Json.read`: the document of a symbol sequence
* `Json.readText`: the document of a text
-/

namespace TargetBench.Json

/-- An array or object that is open, and what it holds before the value that is being read. The
last part stands first. -/
inductive Frame where
  | array (items : List Json)
  | object (members : List (Quoted × Json)) (name : Quoted)

/-- What has just been read, and so what may follow. -/
inductive Reader.Stage where
  /-- A value has to follow. -/
  | value
  /-- An array was opened: a value or its end follows. -/
  | firstItem
  /-- An object was opened: a name or its end follows. -/
  | firstName
  /-- A name has to follow in an object with these members. -/
  | nextName (members : List (Quoted × Json))
  /-- A name was read. -/
  | colon (members : List (Quoted × Json)) (name : Quoted)
  /-- A value was read to its end. -/
  | complete (value : Json)

/-- What has been read so far. -/
structure Reader where
  stack : List Frame
  stage : Reader.Stage

namespace Reader

/-- Reads the first token of a value. -/
def beginValue (stack : List Frame) : Token → Option Reader
  | .null => some ⟨stack, .complete .null⟩
  | .bool b => some ⟨stack, .complete (.bool b)⟩
  | .number n => some ⟨stack, .complete (.number n)⟩
  | .text q => some ⟨stack, .complete (.text q)⟩
  | .openArray => some ⟨.array [] :: stack, .firstItem⟩
  | .openObject => some ⟨stack, .firstName⟩
  | _ => none

/-- Reads the token after a value. -/
def afterValue (stack : List Frame) (v : Json) : Token → Option Reader
  | .comma => match stack with
    | .array items :: stack => some ⟨.array (v :: items) :: stack, .value⟩
    | .object members name :: stack => some ⟨stack, .nextName ((name, v) :: members)⟩
    | [] => none
  | .closeArray => match stack with
    | .array items :: stack => some ⟨stack, .complete (.array (v :: items).reverse)⟩
    | _ => none
  | .closeObject => match stack with
    | .object members name :: stack =>
      some ⟨stack, .complete (.object ((name, v) :: members).reverse)⟩
    | _ => none
  | _ => none

/-- Reads one token. -/
def step (r : Reader) (t : Token) : Option Reader :=
  match r.stage with
  | .value => beginValue r.stack t
  | .firstItem => match t with
    | .closeArray => match r.stack with
      | .array [] :: stack => some ⟨stack, .complete (.array [])⟩
      | _ => none
    | t => beginValue r.stack t
  | .firstName => match t with
    | .closeObject => some ⟨r.stack, .complete (.object [])⟩
    | .text name => some ⟨r.stack, .colon [] name⟩
    | _ => none
  | .nextName members => match t with
    | .text name => some ⟨r.stack, .colon members name⟩
    | _ => none
  | .colon members name => match t with
    | .colon => some ⟨.object members name :: r.stack, .value⟩
    | _ => none
  | .complete v => afterValue r.stack v t

/-- The document, at the end of the tokens. -/
def finish : Reader → Option Json
  | ⟨[], .complete v⟩ => some v
  | _ => none

end Reader

/-- The document of a token sequence. -/
def ofTokens? (ts : List Token) : Option Json := do
  (← ts.foldlM Reader.step ⟨[], .value⟩).finish

/-- The document of a symbol sequence. -/
def read (symbols : List Symbol) : Option Json := do ofTokens? (← tokens? symbols)

/-- The document of a text. -/
def readText (s : String) : Option Json := read (s.toList.map .char)

/-- The document of a byte sequence. -/
def readBytes (bs : List UInt8) : Option Json := read (Utf8.symbols bs)

end TargetBench.Json
