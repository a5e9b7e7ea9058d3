import TargetBench.Json.Wire

/-!
# Commands

What an agent may ask of a session. On the wire a command is one flat record in which only the
fields of its kind count; `CommandRecord.command` keeps these and gives absent ones their zero.

## Main definitions

* `CommandKind`, `Command`: commands by kind, and with what they carry
* `LoadRequest`: which component to load
* `CommandRecord`: the record of a command
* `Command.record`, `CommandRecord.command`: from a command to its record and back

## Main results

* `CommandRecord.command_record`: the record of a command stands for the command
-/

namespace TargetBench

/-- The kinds of commands. -/
inductive CommandKind where
  | exit
  | load
  | status
  | call
  | list
deriving DecidableEq

namespace CommandKind

/-- The kinds by their names. -/
def names : List (String × CommandKind) :=
  [("EXIT", exit), ("LOAD_HAL", load), ("GET_STATUS", status), ("CALL_FUNCTION", call),
    ("LIST_FUNCTIONS", list)]

/-- The name of a kind. -/
def name : CommandKind → String
  | exit => "EXIT"
  | load => "LOAD_HAL"
  | status => "GET_STATUS"
  | call => "CALL_FUNCTION"
  | list => "LIST_FUNCTIONS"

instance : Wire CommandKind where
  toJson k := .ofText k.name
  decode := Decoder.enumeration names

end CommandKind

/-- Which component to load. -/
structure LoadRequest where
  /-- The path of the component's library. -/
  path : String
  /-- The number of the component's class. -/
  componentClass : Signed 32
  /-- The number of the component's type. -/
  componentType : Signed 32
  version : Binary32
  /-- The module, or the package and interface of a service. -/
  moduleName : String
deriving BEq

/-- What an agent asks of a session. -/
inductive Command where
  /-- End the session. -/
  | exit
  /-- Load a component. -/
  | load (request : LoadRequest)
  /-- Probe the status, about a matter that the agent gives by number. -/
  | status (kind : Signed 32)
  /-- Call the function, or read the attribute, that a text describes. -/
  | call (description : String)
  /-- Describe the interface of the loaded component. -/
  | list

/-- The record of a command. -/
structure CommandRecord where
  kind : CommandKind
  path : Option String
  componentClass : Option (Signed 32)
  componentType : Option (Signed 32)
  version : Option Binary32
  moduleName : Option String
  status : Option (Signed 32)
  description : Option String
deriving BEq

namespace CommandRecord

/-- A record with no field but the kind. -/
def bare (kind : CommandKind) : CommandRecord := ⟨kind, none, none, none, none, none, none, none⟩

/-- The command that a record stands for. -/
def command (r : CommandRecord) : Command :=
  match r.kind with
  | .exit => .exit
  | .load => .load {
      path := r.path.getD ""
      componentClass := r.componentClass.getD (Signed.zero 32)
      componentType := r.componentType.getD (Signed.zero 32)
      version := r.version.getD (.ofInt 0)
      moduleName := r.moduleName.getD "" }
  | .status => .status (r.status.getD (Signed.zero 32))
  | .call => .call (r.description.getD "")
  | .list => .list

/-- The document of a record. -/
def toJson (r : CommandRecord) : Json :=
  .record (
    [("command_type", Wire.toJson r.kind)]
    ++ Json.optionalMember "file_path" .ofText r.path
    ++ Json.optionalMember "target_class" (fun n => .ofInt n.val) r.componentClass
    ++ Json.optionalMember "target_type" (fun n => .ofInt n.val) r.componentType
    ++ Json.optionalMember "target_version" .ofSingle r.version
    ++ Json.optionalMember "module_name" .ofText r.moduleName
    ++ Json.optionalMember "status_type" (fun n => .ofInt n.val) r.status
    ++ Json.optionalMember "arg" .ofText r.description)

/-- The names of the fields. -/
def fieldNames : List String :=
  ["command_type", "file_path", "target_class", "target_type", "target_version", "module_name",
    "status_type", "arg"]

/-- The record of a document. -/
def decode : Decoder CommandRecord :=
  Decoder.record fieldNames fun f => do
    return {
      kind := ← f.required "command_type" Wire.decode
      path := ← f.optional "file_path" Decoder.text
      componentClass := ← f.optional "target_class" Decoder.integer
      componentType := ← f.optional "target_type" Decoder.integer
      version := ← f.optional "target_version" Decoder.single
      moduleName := ← f.optional "module_name" Decoder.text
      status := ← f.optional "status_type" Decoder.integer
      description := ← f.optional "arg" Decoder.text }

instance : Wire CommandRecord := ⟨toJson, decode⟩

end CommandRecord

/-- The record of a command. -/
def Command.record : Command → CommandRecord
  | exit => .bare .exit
  | load request => { CommandRecord.bare .load with
      path := some request.path
      componentClass := some request.componentClass
      componentType := some request.componentType
      version := some request.version
      moduleName := some request.moduleName }
  | status kind => { CommandRecord.bare .status with status := some kind }
  | call description => { CommandRecord.bare .call with description := some description }
  | list => .bare .list

/-- The record of a command stands for the command. -/
theorem CommandRecord.command_record (c : Command) : c.record.command = c := by
  cases c <;> rfl

end TargetBench
