import TargetBench.Json.Wire

/-!
# Modes

Settings that are chosen by name. A person may write a name in either case; a document holds it
exactly.

## Main definitions

* `Isolation`: how sessions are kept apart
* `LogFormat`: how the log is written
* `Mode`: settings that are chosen by name
* `Mode.parse?`: the setting that a person names
-/

namespace TargetBench

/-- How sessions are kept apart. -/
inductive Isolation where
  /-- Each session is a process of its own. -/
  | process
  /-- Each session is a thread of the daemon. -/
  | thread
deriving DecidableEq

/-- How the log is written. -/
inductive LogFormat where
  /-- Each record is a document. -/
  | json
  /-- Each record is a line for people. -/
  | compact
deriving DecidableEq

/-- Settings that are chosen by name. -/
class Mode (α : Type) where
  /-- All settings with their names. -/
  names : List (String × α)
  /-- The name of a setting. -/
  name : α → String

namespace Mode

/-- A text with the letters of the ASCII range in lower case. -/
def lowerCase (s : String) : String := String.ofList (s.toList.map Char.toLower)

/-- The setting that a person names, in either case. -/
def parse? {α : Type} [Mode α] (s : String) : Option α :=
  (names : List (String × α)).lookup (lowerCase s)

/-- The decoder of a setting, which takes exact names only. -/
def decoder (α : Type) [Mode α] : Decoder α := .enumeration names

end Mode

instance : Mode Isolation where
  names := [("process", .process), ("thread", .thread)]
  name
    | .process => "process"
    | .thread => "thread"

instance : Mode LogFormat where
  names := [("json", .json), ("compact", .compact)]
  name
    | .json => "json"
    | .compact => "compact"

/-- The name of a log format as a record of the log holds it. -/
def LogFormat.title : LogFormat → String
  | json => "Json"
  | compact => "Compact"

instance : Wire Isolation := ⟨fun m => .ofText (Mode.name m), Mode.decoder Isolation⟩

instance : Wire LogFormat := ⟨fun m => .ofText (Mode.name m), Mode.decoder LogFormat⟩

end TargetBench
