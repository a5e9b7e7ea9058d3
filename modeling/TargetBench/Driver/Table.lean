import TargetBench.Component.Interface
import TargetBench.Driver.Channel
import TargetBench.Driver.Verification
import TargetBench.Telemetry.Record

/-!
# Function tables

A driver answers the calls of one interface. Its functions and attributes stand in a table, in the
order of their last registration; the interface that the driver reports is read off the table, so
it lists exactly what can be called and read.

## Main definitions

* `InvokeError`: why a call or a read fails
* `Handler δ`: what a function does to the driver's state
* `FunctionTable δ`: the functions and attributes of an interface
* `Driver δ`: a table with the driver's state
* `Driver.call`, `Driver.verify`, `Driver.readAttribute`: the use of a driver
-/

namespace TargetBench

/-- Why a call or a read fails. -/
inductive InvokeError where
  | notFound (name : String)
  | attributeNotFound (name : String)
  /-- The arguments do not fit the declaration. -/
  | arguments (function : String) (source : MarshalError)
  /-- The native side failed. -/
  | driver (function message : String)

/-- The text of an error. -/
def InvokeError.message : InvokeError → String
  | notFound name => "function '" ++ name ++ "' not found"
  | attributeNotFound name => "attribute '" ++ name ++ "' not found"
  | arguments function source => "invalid arguments for '" ++ function ++ "': " ++ source.message
  | driver function message => "driver failure in '" ++ function ++ "': " ++ message

/-- What a report calls an error. -/
def InvokeError.label : InvokeError → String
  | notFound _ => "NotFound"
  | attributeNotFound _ => "AttributeNotFound"
  | arguments .. => "Arguments"
  | driver .. => "Driver"

instance : Reported InvokeError := ⟨InvokeError.label, InvokeError.message⟩

/-- What a call does besides changing the driver's state. -/
inductive CallEffect where
  /-- A line is delivered to the agent. -/
  | notified (line : String)
  /-- A record is logged. -/
  | logged (record : LogRecord)
deriving DecidableEq

/-- The outcome of an operation on a driver's state. -/
structure Outcome (δ α : Type) where
  result : Except InvokeError α
  state : δ
  effects : List CallEffect

/-- What a function does to the driver's state. -/
abbrev Handler (δ : Type) := δ → Arguments → CallbackChannel → Outcome δ (List Value)

/-- A function in a table. -/
structure FunctionEntry (δ : Type) where
  signature : Signature
  handler : Handler δ
  /-- How results are compared, if not by shape, kind and value. -/
  verifier : Option Verifier

/-- An attribute in a table. -/
structure AttributeEntry (δ : Type) where
  declaration : Attribute
  getter : δ → Value

/-- The functions and attributes of an interface. -/
structure FunctionTable (δ : Type) where
  /-- The interface; what it lists does not count. -/
  identity : Interface
  functions : List (FunctionEntry δ)
  attributes : List (AttributeEntry δ)

namespace FunctionTable

variable {δ : Type}

/-- The empty table of an interface. -/
def empty (identity : Interface) : FunctionTable δ := ⟨identity, [], []⟩

/-- Adds a function; one of the same name is dropped. -/
def addFunction (t : FunctionTable δ) (signature : Signature) (handler : Handler δ)
    (verifier : Option Verifier) : FunctionTable δ :=
  { t with functions :=
      t.functions.filter (fun e => e.signature.name ≠ signature.name)
        ++ [⟨signature, handler, verifier⟩] }

/-- Adds an attribute; one of the same name is dropped. -/
def addAttribute (t : FunctionTable δ) (declaration : Attribute) (getter : δ → Value) :
    FunctionTable δ :=
  { t with attributes :=
      t.attributes.filter (fun e => e.declaration.name ≠ declaration.name)
        ++ [⟨declaration, getter⟩] }

/-- The interface with exactly what the table holds. -/
def interface (t : FunctionTable δ) : Interface :=
  { t.identity with
    functions := t.functions.map FunctionEntry.signature
    attributes := t.attributes.map AttributeEntry.declaration }

/-- How many functions can be called. -/
def size (t : FunctionTable δ) : Nat := t.functions.length

/-- The function of a name. -/
def function? (t : FunctionTable δ) (name : String) : Option (FunctionEntry δ) :=
  t.functions.find? fun e => e.signature.name = name

/-- The attribute of a name. -/
def attribute? (t : FunctionTable δ) (name : String) : Option (AttributeEntry δ) :=
  t.attributes.find? fun e => e.declaration.name = name

end FunctionTable

/-- Compares arguments with declared types, from a position on. -/
def checkTypes : Nat → List Descriptor → List Value → Except MarshalError Unit
  | index, d :: ds, v :: vs =>
    if d.admits v then checkTypes (index + 1) ds vs else .error (.mismatch index d v)
  | _, _, _ => .ok ()

/-- Compares arguments with the declaration of a function: first their number, then their types. -/
def Signature.check (s : Signature) (args : List Value) : Except MarshalError Unit :=
  if s.args.length ≠ args.length then .error (.count s.args.length args.length)
  else checkTypes 0 s.args args

/-- A table with the driver's state. -/
structure Driver (δ : Type) where
  table : FunctionTable δ
  state : δ

namespace Driver

variable {δ : Type}

/-- The interface that the driver serves. -/
def interface (d : Driver δ) : Interface := d.table.interface

/-- Results as many as declared; any other number is a failure of the native side. -/
def checkResults (s : Signature) (function : String) (results : List Value) :
    Except InvokeError (List Value) :=
  if results.length = s.returns.length then .ok results
  else .error (.driver function ("returned " ++ Decimal.text results.length
    ++ " value(s), signature declares " ++ Decimal.text s.returns.length))

/-- Calls a function with arguments that fit its declaration. -/
def call (d : Driver δ) (c : Call) (channel : CallbackChannel) : Outcome δ (List Value) :=
  match d.table.function? c.name with
  | none => ⟨.error (.notFound c.name), d.state, []⟩
  | some entry => match entry.signature.check c.args with
    | .error source => ⟨.error (.arguments c.name source), d.state, []⟩
    | .ok () =>
      let outcome := entry.handler d.state ⟨c.args⟩ channel
      { outcome with result := outcome.result.bind (checkResults entry.signature c.name) }

/-- Compares results with expected ones, in the way that the function asks for. -/
def verify (d : Driver δ) (e : Expectation) (actual : List Value) : Except VerifyError Unit :=
  match d.table.function? e.name with
  | none => .error (.unknownFunction e.name)
  | some entry => do
    compareCounts e.expected actual
    (entry.verifier.getD compareValues) e.expected actual

/-- Reads an attribute. -/
def readAttribute (d : Driver δ) (name : String) : Except InvokeError Value :=
  match d.table.attribute? name with
  | some entry => .ok (entry.getter d.state)
  | none => .error (.attributeNotFound name)

end Driver

end TargetBench
