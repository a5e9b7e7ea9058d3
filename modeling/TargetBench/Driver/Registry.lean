import TargetBench.Character.Visible
import TargetBench.Driver.Table

/-!
# Driver registry

Which driver serves which interface. A key is the identity of an interface; for each key the
registry keeps how a fresh driver is opened, so sessions share no driver state.

## Main definitions

* `DriverKey`: the identity of an interface
* `TargetComponent`: what a driver is opened for
* `DriverRegistry δ`: keys with their factories
* `DriverRegistry.register`, `DriverRegistry.opened`: the use of a registry
-/

namespace TargetBench

/-- The identity of an interface. A missing package counts as an empty one, and versions are
compared by their texts. -/
structure DriverKey where
  componentClass : ComponentClass
  package : String
  componentType : Signed 32
  version : String
  name : String
deriving DecidableEq

namespace DriverKey

/-- The key of an identity. -/
def make (componentClass : ComponentClass) (package : Option String) (componentType : Signed 32)
    (version : Binary32) (name : String) : DriverKey :=
  ⟨componentClass, package.getD "", componentType, version.text, name⟩

/-- The key of an interface. -/
def ofInterface (i : Interface) : DriverKey :=
  make i.componentClass i.package i.componentType i.version i.name

/-- A key in messages: the package, or the class and type of a component without one. -/
def display (k : DriverKey) : String :=
  (if k.package.isEmpty then
    "class " ++ Decimal.signedText k.componentClass.id.val ++ " type "
      ++ Decimal.signedText k.componentType.val
  else k.package)
  ++ "@" ++ k.version ++ "::" ++ k.name

/-- How a character is written in a quoted text of a report: by its number if it does not show by
itself. -/
def reportChar (c : Char) : String :=
  match c with
  | '"' => "\\\""
  | '\\' => "\\\\"
  | '\n' => "\\n"
  | '\r' => "\\r"
  | '\t' => "\\t"
  | '\x00' => "\\0"
  | c =>
    if Character.isVisible c then c.toString
    else "\\u\x7b" ++ String.ofList (Nat.toDigits 16 c.toNat) ++ "\x7d"

/-- A quoted text in a report. -/
def reportText (s : String) : String := "\"" ++ String.join (s.toList.map reportChar) ++ "\""

/-- All parts of a key, in a report. -/
def report (k : DriverKey) : String :=
  "DriverKey \x7b class: " ++ k.componentClass.label ++ ", package: " ++ reportText k.package
    ++ ", component_type: " ++ Decimal.signedText k.componentType.val
    ++ ", version: " ++ reportText k.version ++ ", component_name: " ++ reportText k.name ++ " \x7d"

end DriverKey

/-- What a driver is opened for. -/
structure TargetComponent where
  /-- The path of the library; empty for a service. -/
  path : String
  /-- The name of the service instance. -/
  serviceName : String
deriving DecidableEq

namespace TargetComponent

/-- A component in a library. -/
def library (path serviceName : String) : TargetComponent := ⟨path, serviceName⟩

/-- A component that is reached as a service. -/
def service (serviceName : String) : TargetComponent := ⟨"", serviceName⟩

/-- The path of the library, if there is one. -/
def libraryPath? (t : TargetComponent) : Option String :=
  if t.path.isEmpty then none else some t.path

end TargetComponent

/-- Why a driver cannot be registered or opened. -/
inductive DriverError where
  | notRegistered (key : String)
  | duplicate (key : String)
  /-- The driver refuses to open the component. -/
  | refused (key message : String)

/-- The text of an error. -/
def DriverError.message : DriverError → String
  | notRegistered key => "no driver registered for " ++ key
  | duplicate key => "a driver is already registered for " ++ key
  | refused key message => "driver for " ++ key ++ " failed to open: " ++ message

/-- What a report calls an error. -/
def DriverError.label : DriverError → String
  | notRegistered _ => "NotRegistered"
  | duplicate _ => "Duplicate"
  | refused .. => "Open"

instance : Reported DriverError := ⟨DriverError.label, DriverError.message⟩

/-- How a fresh driver is opened. -/
abbrev DriverFactory (δ : Type) := TargetComponent → Except DriverError (Driver δ)

/-- Keys with their factories, each key once. -/
structure DriverRegistry (δ : Type) where
  entries : List (DriverKey × DriverFactory δ)

namespace DriverRegistry

variable {δ : Type}

/-- The registry without drivers. -/
def empty : DriverRegistry δ := ⟨[]⟩

/-- The factory of a key. -/
def factory? (r : DriverRegistry δ) (key : DriverKey) : Option (DriverFactory δ) :=
  r.entries.lookup key

/-- Whether a key has a driver. -/
def contains (r : DriverRegistry δ) (key : DriverKey) : Bool := (r.factory? key).isSome

/-- Registers the factory of a key that has none. -/
def register (r : DriverRegistry δ) (key : DriverKey) (factory : DriverFactory δ) :
    Except DriverError (DriverRegistry δ) :=
  if r.contains key then .error (.duplicate key.display) else .ok ⟨r.entries ++ [(key, factory)]⟩

/-- Opens a fresh driver. -/
def opened (r : DriverRegistry δ) (key : DriverKey) (target : TargetComponent) :
    Except DriverError (Driver δ) :=
  match r.factory? key with
  | some factory => factory target
  | none => .error (.notRegistered key.display)

/-- How many drivers there are. -/
def size (r : DriverRegistry δ) : Nat := r.entries.length

/-- All keys, in a report. -/
def report (r : DriverRegistry δ) : String :=
  "\x7b" ++ ", ".intercalate (r.entries.map fun e => e.1.report) ++ "\x7d"

end DriverRegistry

end TargetBench
