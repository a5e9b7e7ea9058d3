import TargetBench.Specification.Lookup

/-!
# Loading and calling components

What a session has loaded, and how loading and calling change it. A request for the path and key
that are loaded already leaves everything as it is.

## Main definitions

* `LoadSettings`: what loading depends on besides the request
* `Loaded δ`: a loaded component
* `Builder δ`: the settings, the drivers, and what is loaded
* `Builder.load`, `Builder.invoke`, `Builder.specification?`: the use of a builder
-/

namespace TargetBench

/-- What loading depends on besides the request. -/
structure LoadSettings where
  /-- The directory of all specifications. -/
  specDir : String
  /-- The name of the service instance. -/
  serviceName : String
  /-- Where the components' notifications go. -/
  callbacks : CallbackChannel

/-- A loaded component. -/
structure Loaded (δ : Type) where
  /-- The path as it was requested. -/
  path : String
  key : DriverKey
  specification : Interface
  driver : Driver δ

/-- The settings, the drivers, and what is loaded. -/
structure Builder (δ : Type) where
  settings : LoadSettings
  registry : DriverRegistry δ
  loaded : Option (Loaded δ)

/-- Why a call has no result. -/
inductive CallError where
  | nothingLoaded
  | invoke (source : InvokeError)

/-- The text of an error. -/
def CallError.message : CallError → String
  | nothingLoaded => "no target component is loaded"
  | invoke source => source.message

/-- What a report calls an error. -/
def CallError.label : CallError → String
  | nothingLoaded => "NothingLoaded"
  | invoke source => "Invoke." ++ source.label

instance : Reported CallError := ⟨CallError.label, CallError.message⟩

namespace Builder

variable {δ : Type}

/-- A builder that has loaded nothing. -/
def fresh (settings : LoadSettings) (registry : DriverRegistry δ) : Builder δ :=
  ⟨settings, registry, none⟩

/-- Whether the component of a path and key is loaded; without a path none is. -/
def isLoaded (b : Builder δ) (path : String) (key : DriverKey) : Bool :=
  !path.isEmpty && b.loaded.any fun l => l.path = path && l.key = key

/-- What a driver is to be opened for. A component that is no service has to have a library. -/
def target (b : Builder δ) (fs : FileSystem) (q : ComponentQuery) (r : LoadRequest) :
    Except LoadError TargetComponent :=
  if q.componentClass.isService then .ok (.service b.settings.serviceName)
  else if fs.pathExists r.path then .ok (.library r.path b.settings.serviceName)
  else .error (.missingTarget r.path)

/-- The record about a component that was loaded. -/
def loadedRecord (key : DriverKey) (r : LoadRequest) (i : Interface) : LogRecord :=
  ⟨.info, SpecificationFile.logTarget, "component loaded",
    [("driver", .text key.display), ("path", .text r.path),
      ("functions", .number i.functions.length)]⟩

/-- Loads the component of a specification that was found, unless it is loaded already. -/
def loadFound (b : Builder δ) (fs : FileSystem) (q : ComponentQuery) (r : LoadRequest)
    (i : Interface) : Except LoadError Unit × Builder δ × List LogRecord :=
  let key := DriverKey.ofInterface i
  if b.isLoaded r.path key then (.ok (), b, [])
  else match b.target fs q r with
    | .error e => (.error e, b, [])
    | .ok target => match b.registry.opened key target with
      | .error e => (.error (.driver e), b, [])
      | .ok driver =>
        (.ok (), { b with loaded := some ⟨r.path, key, i, driver⟩ }, [loadedRecord key r i])

/-- Loads the component that a request asks for. -/
def load (b : Builder δ) (fs : FileSystem) (r : LoadRequest) :
    Except LoadError Unit × Builder δ × List LogRecord :=
  match ComponentQuery.ofRequest r with
  | .error e => (.error (.ofQueryError e), b, [])
  | .ok q => match Specification.find fs b.settings.specDir q with
    | (.error e, log) => (.error e, b, log)
    | (.ok i, log) =>
      let (outcome, b, more) := b.loadFound fs q r i
      (outcome, b, log ++ more)

/-- The record about results that are not as expected. -/
def mismatchRecord (function : String) (e : VerifyError) : LogRecord :=
  ⟨.info, SpecificationFile.logTarget, "result verification failed",
    [("function", .text function), ("error", .text e.message)]⟩

/-- Whether results are as the call expects, if it expects any, and a record if they are not. -/
def verification (d : Driver δ) (c : Call) (results : List Value) :
    Option Bool × List CallEffect :=
  match c.expectation with
  | none => (none, [])
  | some e => match d.verify e results with
    | .ok () => (some true, [])
    | .error e => (some false, [.logged (mismatchRecord c.name e)])

/-- Calls a function or reads an attribute of the loaded component. The duration of a call is
given; reading an attribute takes no time. -/
def invoke (b : Builder δ) (elapsed : Unsigned 64) (c : Call) :
    Except CallError CallResult × Builder δ × List CallEffect :=
  match b.loaded with
  | none => (.error .nothingLoaded, b, [])
  | some l => match c.target with
    | .attribute => match l.driver.readAttribute c.name with
      | .ok v => (.ok ⟨c.name, [v], Unsigned.zero 64, none⟩, b, [])
      | .error e => (.error (.invoke e), b, [])
    | .function =>
      let outcome := l.driver.call c b.settings.callbacks
      let driver := { l.driver with state := outcome.state }
      let b := { b with loaded := some { l with driver := driver } }
      match outcome.result with
      | .error e => (.error (.invoke e), b, outcome.effects)
      | .ok results =>
        let (verified, effects) := verification driver c results
        (.ok ⟨c.name, results, elapsed, verified⟩, b, outcome.effects ++ effects)

/-- The interface of the loaded component. -/
def specification? (b : Builder δ) : Option Interface := b.loaded.map Loaded.specification

end Builder

end TargetBench
