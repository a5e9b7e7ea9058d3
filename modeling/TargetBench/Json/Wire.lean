import TargetBench.Json.Number
import TargetBench.Json.Printer
import TargetBench.Json.Reader
import TargetBench.Text.Blank
import TargetBench.Text.Complaint

/-!
# Wire forms

How values are carried by documents. A decoder is told how many brackets may still be opened, so
no document nests deeper than a reader is ready to follow; a part that no decoder looks at may
nest as it likes.

A record is an object or the array of its fields in their order. Members of other names are
passed over, a field that occurs twice is refused, and an array may leave out fields at its end.

## Main definitions

* `Decoder α`: readers of documents
* `Wire α`: values with a document form
* `Fields`: the fields that a document gives for a record
* `Decoder.enumeration`: members of a fixed list of names
* `encodeText`, `decodeText`: values as compact text
* `CodecError`: why a text gives no value
-/

namespace TargetBench

/-- A reader of documents, told how many brackets may still be opened. -/
abbrev Decoder (α : Type) := Nat → Json → Option α

/-- Values with a document form. -/
class Wire (α : Type) where
  /-- The document of a value. -/
  toJson : α → Json
  /-- The value of a document. -/
  decode : Decoder α

/-- How many brackets a text may open inside each other. -/
def nestingLimit : Nat := 127

namespace Decoder

variable {α β : Type}

/-- The result of a reader, changed by a function. -/
def map (f : α → β) (d : Decoder α) : Decoder β := fun budget doc => (d budget doc).map f

/-- A text that stands for characters. -/
def text : Decoder String
  | _, .text q => q
  | _, _ => none

/-- A truth value. -/
def bool : Decoder Bool
  | _, .bool b => some b
  | _, _ => none

/-- An integer of a range. -/
def integer {lo hi : Int} : Decoder (Bounded lo hi)
  | _, .number n => n.integer?.bind Bounded.ofInt?
  | _, _ => none

/-- A double number. -/
def double : Decoder Binary64
  | _, .number n => n.double?
  | _, _ => none

/-- A single number. -/
def single : Decoder Binary32
  | _, .number n => n.single?
  | _, _ => none

/-- An array of values. -/
def list (d : Decoder α) : Decoder (List α)
  | budget + 1, .array items => items.mapM (d budget)
  | _, _ => none

/-- A member of a fixed list of names: the name as a text, or an object with the name as its only
member and nothing as the member's value. -/
def enumeration (names : List (String × α)) : Decoder α
  | _, .text (some name) => names.lookup name
  | _ + 1, .object [(some name, .null)] => names.lookup name
  | _, _ => none

end Decoder

/-- The fields that a document gives for a record, each at most once, and the budget of brackets
for their values. -/
structure Fields where
  budget : Nat
  given : List (String × Json)

namespace Fields

variable {α : Type}

/-- The named parts of a document that are among the fields of a record. -/
def given? (names : List String) : Json → Option (List (String × Json))
  | .object members => do
    let named ← members.mapM fun (name, value) => name.map (·, value)
    let known := named.filter fun m => names.contains m.1
    if (known.map (·.1)).Nodup then some known else none
  | .array items => if items.length ≤ names.length then some (names.zip items) else none
  | _ => none

/-- The fields that a document gives for a record of the given field names. -/
def of? (names : List String) (budget : Nat) (doc : Json) : Option Fields :=
  (given? names doc).map fun given => ⟨budget, given⟩

/-- The value of a field that has to be there. -/
def required (f : Fields) (name : String) (d : Decoder α) : Option α :=
  (f.given.lookup name).bind (d f.budget)

/-- The value of a field that has a default. -/
def defaulted (f : Fields) (name : String) (d : Decoder α) (default : α) : Option α :=
  match f.given.lookup name with
  | none => some default
  | some doc => d f.budget doc

/-- The value of a field that may be missing or null. -/
def optional (f : Fields) (name : String) (d : Decoder α) : Option (Option α) :=
  match f.given.lookup name with
  | none => some none
  | some .null => some none
  | some doc => (d f.budget doc).map some

/-- The values in a field that has to be there and be an array. -/
def items (f : Fields) (name : String) (item : Json → Option α) : Option (List α) :=
  match f.given.lookup name with
  | some (.array items) => items.mapM item
  | _ => none

end Fields

/-- A record with the given field names, built from its fields. -/
def Decoder.record {α : Type} (names : List String) (build : Fields → Option α) : Decoder α
  | 0, _ => none
  | budget + 1, doc => (Fields.of? names budget doc).bind build

/-- Why a text gives no value. -/
inductive CodecError where
  /-- The text is blank. -/
  | empty
  /-- The text is no document of the expected kind. -/
  | malformed

/-- The text of an error. -/
def CodecError.message : CodecError → String
  | .empty => "payload is empty"
  | .malformed => "malformed payload: " ++ Complaint.document

/-- What a report calls an error. -/
def CodecError.label : CodecError → String
  | empty => "Empty"
  | malformed => "Malformed"

instance : Reported CodecError := ⟨CodecError.label, CodecError.message⟩

section Text

variable {α : Type} [Wire α]

/-- The compact text of a value. -/
def encodeText (x : α) : String := (Wire.toJson x).compact

/-- The value that a document stands for. -/
def decodeDocument (doc : Json) : Option α := Wire.decode nestingLimit doc

/-- The value that a text stands for, blanks at its ends aside. -/
def decodeText (s : String) : Except CodecError α :=
  let trimmed := Text.trim s
  if trimmed.isEmpty then .error .empty
  else match (Json.readText trimmed).bind decodeDocument with
    | some x => .ok x
    | none => .error .malformed

/-- The value that bytes stand for, as they are. -/
def decodeBytes (bs : List UInt8) : Option α := (Json.readBytes bs).bind decodeDocument

end Text

end TargetBench
