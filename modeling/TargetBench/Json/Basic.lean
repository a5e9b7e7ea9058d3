import TargetBench.Number.Numeral

/-!
# Documents

The tree of a JSON document. It keeps what a reader may need to refuse: numbers as they are
written, members in their order with repetitions, and texts that stand for no characters.

## Main definitions

* `Quoted`: a quoted text, or the fact that it stands for no characters
* `Json`: documents
* `Json.record`: the object of named members
-/

namespace TargetBench

/-- What a quoted text stands for; nothing if it holds half a surrogate pair or a stray byte. -/
abbrev Quoted := Option String

/-- A JSON document. -/
inductive Json where
  | null
  | bool (b : Bool)
  | number (n : Numeral)
  | text (q : Quoted)
  | array (items : List Json)
  /-- Members in their order; a name may occur more than once. -/
  | object (members : List (Quoted × Json))
deriving Inhabited

namespace Json

/-- The document of a text. -/
def ofText (s : String) : Json := .text (some s)

/-- The document of an integer. -/
def ofInt (n : Int) : Json := .number (.ofInt n)

/-- The object of named members, in their order. -/
def record (members : List (String × Json)) : Json :=
  .object (members.map fun (name, value) => (some name, value))

/-- A member that is left out if it has no value. -/
def optionalMember {α : Type} (name : String) (encode : α → Json) : Option α → List (String × Json)
  | some x => [(name, encode x)]
  | none => []

end Json

end TargetBench
