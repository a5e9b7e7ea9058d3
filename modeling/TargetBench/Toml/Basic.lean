import TargetBench.Json.Basic

/-!
# Settings files

A settings file is a list of statements: headers that open tables, and keys with their values.
Each table may be opened once and each key given once; the tables of dotted keys are closed to
headers of their own, and the tables of headers are closed to dotted keys.

## Main definitions

* `Toml.Key`: a name, and the tables on the way to it
* `Toml.Statement`: headers and assignments
* `Toml.Members`: what a table holds while a file is being read
* `Toml.document?`: the document that statements describe
-/

namespace TargetBench.Toml

/-- A name, and the names of the tables on the way to it. -/
structure Key where
  way : List String
  name : String

namespace Key

/-- All names of a key. -/
def path (k : Key) : List String := k.way ++ [k.name]

end Key

/-- One statement of a settings file. -/
inductive Statement where
  /-- Opens a table. -/
  | header (k : Key)
  /-- Opens one more table of a series. -/
  | series (k : Key)
  /-- Gives a key of the open table a value. -/
  | assign (k : Key) (value : Json)

/-- How a table came to be. -/
inductive Origin where
  /-- A header opened it. -/
  | header
  /-- It stands on the way to the table of a header. -/
  | way
  /-- It stands on the way to a name with dots. -/
  | dotted
deriving DecidableEq

/-- What a name of a table stands for while a file is being read. -/
inductive Item where
  | value (doc : Json)
  | table (origin : Origin) (members : List (String × Item))
  /-- A series of tables, of which the last one is kept apart. -/
  | series (before : List (List (String × Item))) (last : List (String × Item))

/-- What a table holds, in the order in which it was given. -/
abbrev Members := List (String × Item)

namespace Members

/-- Gives a name a new meaning. -/
def put (ms : Members) (name : String) (item : Item) : Members :=
  if (ms.lookup name).isNone then ms ++ [(name, item)]
  else ms.map fun m => if m.1 = name then (name, item) else m

/-- Changes the table that a way leads to. Missing tables on the way are made, as `made` tells.
The table of a header is closed to dotted keys, and no way leads through a value. -/
def change (made : Origin) (f : Origin → Members → Option Members) :
    List String → Origin → Members → Option Members
  | [], origin, ms => f origin ms
  | name :: way, _, ms => match ms.lookup name with
    | none => (change made f way made []).map fun sub => ms.put name (.table made sub)
    | some (.value _) => none
    | some (.series before last) =>
      (change made f way .header last).map fun last => ms.put name (.series before last)
    | some (.table origin sub) =>
      if made = .dotted ∧ origin = .header then none
      else (change made f way origin sub).map fun sub => ms.put name (.table origin sub)

/-- Gives a new name a value. -/
def addValue (name : String) (doc : Json) (ms : Members) : Option Members :=
  if (ms.lookup name).isSome then none else some (ms ++ [(name, .value doc)])

/-- Gives a key a value. The table that dots lead to must have come to be by dots. -/
def assign (k : Key) (doc : Json) (ms : Members) : Option Members :=
  change .dotted (fun origin sub =>
    if k.way ≠ [] ∧ origin ≠ .dotted then none else sub.addValue k.name doc) k.way .header ms

/-- Opens the table of a header. -/
def openTable (k : Key) (ms : Members) : Option Members :=
  change .way (fun _ sub => match sub.lookup k.name with
    | none => some (sub.put k.name (.table .header []))
    | some (.table .way inner) => some (sub.put k.name (.table .header inner))
    | some _ => none) k.way .header ms

/-- Opens one more table of a series. -/
def openSeries (k : Key) (ms : Members) : Option Members :=
  change .way (fun _ sub => match sub.lookup k.name with
    | none => some (sub.put k.name (.series [] []))
    | some (.series before last) => some (sub.put k.name (.series (before ++ [last]) []))
    | some _ => none) k.way .header ms

end Members

mutual

/-- The document of an item. -/
def Item.toJson : Item → Json
  | .value doc => doc
  | .table _ ms => .object (membersJson ms)
  | .series before last => .array (tablesJson before ++ [.object (membersJson last)])

/-- The members of a table's document. -/
def membersJson : List (String × Item) → List (Quoted × Json)
  | [] => []
  | (name, item) :: ms => (some name, item.toJson) :: membersJson ms

/-- The documents of tables. -/
def tablesJson : List (List (String × Item)) → List Json
  | [] => []
  | ms :: tables => .object (membersJson ms) :: tablesJson tables

end

/-- A settings file that is being read. -/
structure Draft where
  root : Members
  /-- The way to the open table. -/
  place : List String

/-- Adds a statement. -/
def Draft.add (d : Draft) : Statement → Option Draft
  | .header k => (d.root.openTable k).map (⟨·, k.path⟩)
  | .series k => (d.root.openSeries k).map (⟨·, k.path⟩)
  | .assign k doc =>
    (d.root.change .way (fun _ ms => ms.assign k doc) d.place .header).map (⟨·, d.place⟩)

/-- The document that statements describe. -/
def document? (statements : List Statement) : Option Json :=
  (statements.foldlM Draft.add ⟨[], []⟩).map fun d => .object (membersJson d.root)

/-- The document of an inline table. -/
def inlineTable? (given : List (Key × Json)) : Option Json :=
  (given.foldlM (fun ms (k, doc) => Members.assign k doc ms) []).map fun ms =>
    .object (membersJson ms)

end TargetBench.Toml
