import TargetBench.Json.Wire

/-!
# Tagged documents

A value of several shapes is an object in which one member, the tag, names the shape, or an array
that begins with the tag. The tag may come after the parts it governs, so the document has to be
held before it is understood, and every part of it has to be sound, also those passed over.

## Main definitions

* `Json.sound`: whether all parts of a document can be held
* `Json.untag?`: the tag of a document, and the document without it
* `Json.variant?`: the shape that a tag names
-/

namespace TargetBench.Json

/-- Whether a numeral stands for a number. -/
def holdsNumber (n : Numeral) : Bool := n.integer?.isSome || n.double?.isSome

mutual

/-- Whether all parts of a document can be held: texts stand for characters, numerals for numbers,
and at most `budget` brackets are open inside each other. -/
def sound (budget : Nat) : Json → Bool
  | .number n => holdsNumber n
  | .text q => q.isSome
  | .array items => match budget with
    | 0 => false
    | budget + 1 => itemsSound budget items
  | .object members => match budget with
    | 0 => false
    | budget + 1 => membersSound budget members
  | _ => true

/-- Whether all items are sound. -/
def itemsSound (budget : Nat) : List Json → Bool
  | [] => true
  | x :: xs => x.sound budget && itemsSound budget xs

/-- Whether all members are sound. -/
def membersSound (budget : Nat) : List (Quoted × Json) → Bool
  | [] => true
  | (name, x) :: ms => name.isSome && x.sound budget && membersSound budget ms

end

/-- The tag of a document, and the document without it. An object has to have exactly one member
of the tag's name. -/
def untag? (tagName : String) : Json → Option (Json × Json)
  | .array (tag :: items) => some (tag, .array items)
  | .object members =>
    let (tags, others) := members.partition fun (name, _) => name == some tagName
    match tags with
    | [(_, tag)] => some (tag, .object others)
    | _ => none
  | _ => none

/-- The shape that a tag names. Inside a document that is held already, its place in the list of
shapes will do as well. -/
def variant? {α : Type} (shapes : List (String × α)) (held : Bool) : Json → Option α
  | .text (some name) => shapes.lookup name
  | .number n =>
    if held then do
      let i ← n.integer?
      if i < 0 then none else shapes[i.toNat]?.map (·.2)
    else none
  | _ => none

end TargetBench.Json

namespace TargetBench.Decoder

variable {α : Type}

/-- A member of a fixed list of names inside a held document, where an object with the name as its
only member may also have an empty object as the member's value. -/
def heldEnumeration (names : List (String × α)) : Decoder α
  | _ + 1, .object [(some name, .object [])] => names.lookup name
  | budget, doc => enumeration names budget doc

/-- A reader of held documents, for documents that may not be sound. -/
def held (d : Decoder α) : Decoder α := fun budget doc =>
  if doc.sound budget then d budget doc else none

end TargetBench.Decoder
