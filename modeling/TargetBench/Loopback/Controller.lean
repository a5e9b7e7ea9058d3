import TargetBench.Driver.Registry
import TargetBench.Loopback.Enumerations

/-!
# The loopback controller

A driver without hardware behind it. It records what is written to it and echoes it to its
client, and it reports the end of each of its operations. It is the driver that every daemon has.

## Main definitions

* `Loopback`: the state of the controller
* `Loopback.table`: its functions and attributes
* `Loopback.key`, `Loopback.factory`: its place in a registry
-/

namespace TargetBench

/-- The state of the controller. -/
structure Loopback where
  /-- The service instance that the controller was opened for. -/
  serviceName : String
  /-- Whether it was opened and not closed since. -/
  isOpen : Bool
  /-- Who is to be told about events and data. -/
  owners : CallbackOwners
  /-- All bytes written to it. -/
  written : List (Unsigned 8)
deriving DecidableEq

namespace Loopback

/-- A closed controller. -/
def closed (serviceName : String) : Loopback := ⟨serviceName, false, .empty, []⟩

/-- The most bytes that one write accepts. -/
def maxPayload : Nat := 255

/-- The callback function that tells the client about events. -/
def eventFunction : String := "sendEvent"

/-- The callback function that hands data to the client. -/
def dataFunction : String := "sendData"

/-- Tells the client about a call of one of its functions. Without a client or a channel nothing
happens; a notification that cannot be delivered is logged. -/
def emit (s : Loopback) (channel : CallbackChannel) (function : String) (args : List Value) :
    List CallEffect :=
  match s.owners.request function args with
  | .error _ => []
  | .ok notification => match channel.notify notification with
    | .ok line => [.notified line]
    | .error .notConnected => []
    | .error e => [.logged ⟨.warn, "halprobe-invoker::invoke", "loopback callback not delivered",
        [("callback", .text function), ("error", .text e.message)]⟩]

/-- Reports an event, which went well, to the client. -/
def event (s : Loopback) (channel : CallbackChannel) (e : NfcEvent) : List CallEffect :=
  s.emit channel eventFunction [.ofMember e, .ofMember NfcStatus.ok]

/-- The status as a list of results. -/
def answer (status : NfcStatus) : Except InvokeError (List Value) := .ok [.ofMember status]

/-- Opens the controller for a client, who is told about it. -/
def openFor : Handler Loopback := fun s args channel =>
  match args.callback 0 with
  | .error source => ⟨.error (.arguments "open" source), s, []⟩
  | .ok client =>
    let owners := (s.owners.register eventFunction client).register dataFunction client
    let next := { s with owners := owners, isOpen := true }
    ⟨answer .ok, next, next.event channel .openComplete⟩

/-- Accepts bytes if the controller is open and they are not too many, and echoes them. The result
is how many bytes were accepted. -/
def write : Handler Loopback := fun s args channel =>
  match args.vector .uint8 0 with
  | .error source => ⟨.error (.arguments "write" source), s, []⟩
  | .ok data =>
    let accepted := if s.isOpen && decide (data.length ≤ maxPayload) then data.length else 0
    let result := .ok [.ofNative .uint32 (Unsigned.clamp 32 accepted)]
    if 0 < accepted then
      let next := { s with written := s.written ++ data }
      ⟨result, next, next.emit channel dataFunction [.ofNatives .uint8 data]⟩
    else ⟨result, s, []⟩

/-- Reports an event if the controller is open, and fails otherwise. -/
def reportIfOpen (e : NfcEvent) (s : Loopback) (channel : CallbackChannel) :
    Outcome Loopback (List Value) :=
  if s.isOpen then ⟨answer .ok, s, s.event channel e⟩ else ⟨answer .failed, s, []⟩

/-- Ends the initialisation; the data that it brings does not matter. -/
def coreInitialized : Handler Loopback := fun s args channel =>
  match args.vector .uint8 0 with
  | .error source => ⟨.error (.arguments "coreInitialized" source), s, []⟩
  | .ok _ => reportIfOpen .postInitComplete s channel

/-- Prepares discovery. -/
def prediscover : Handler Loopback := fun s _ channel => reportIfOpen .preDiscoverComplete s channel

/-- Closes an open controller. The client is told and then forgotten. -/
def close : Handler Loopback := fun s _ channel =>
  if s.isOpen then
    ⟨answer .ok, { s with isOpen := false, owners := .empty }, s.event channel .closeComplete⟩
  else ⟨answer .failed, s, []⟩

/-- Takes note that control was granted. -/
def controlGranted : Handler Loopback := fun s _ _ =>
  ⟨answer (if s.isOpen then .ok else .failed), s, []⟩

/-- Switches the power off and on. -/
def powerCycle : Handler Loopback := fun s _ channel => reportIfOpen .openComplete s channel

/-- The interface that the client implements. -/
def clientInterface : String := "loopback.nfc@1.0::INfcClientCallback"

/-- What the interface is known by. -/
def identity : Interface where
  componentClass := .service
  componentType := Signed.zero 32
  version := .ofInt 1
  package := some "loopback.nfc"
  name := "INfc"
  functions := []
  attributes := []

/-- The type of byte sequences. -/
def bytes : Descriptor := .vector (.scalar .uint8)

/-- The declaration of a function that answers with a status. -/
def statusFunction (name : String) (args : List Descriptor) : Signature :=
  ⟨name, args, [Enumerated.descriptor NfcStatus]⟩

/-- Comparison of statuses. -/
def compareStatus : Option Verifier := some (compareMembers NfcStatus)

/-- The functions and attributes of the controller. -/
def table : FunctionTable Loopback :=
  FunctionTable.empty identity
    |>.addFunction (statusFunction "open" [.callback clientInterface]) openFor compareStatus
    |>.addFunction ⟨"write", [bytes], [.scalar .uint32]⟩ write none
    |>.addFunction (statusFunction "coreInitialized" [bytes]) coreInitialized compareStatus
    |>.addFunction (statusFunction "prediscover" []) prediscover compareStatus
    |>.addFunction (statusFunction "close" []) close compareStatus
    |>.addFunction (statusFunction "controlGranted" []) controlGranted compareStatus
    |>.addFunction (statusFunction "powerCycle" []) powerCycle compareStatus
    |>.addAttribute ⟨"max_payload", .scalar .uint32⟩
      fun _ => .ofNative .uint32 (Unsigned.clamp 32 maxPayload)

/-- The key of the interface. -/
def key : DriverKey := .ofInterface identity

/-- Opens a closed controller. -/
def factory : DriverFactory Loopback := fun target => .ok ⟨table, closed target.serviceName⟩

/-- Adds the controller to a registry. -/
def register (r : DriverRegistry Loopback) : Except DriverError (DriverRegistry Loopback) :=
  r.register key factory

end Loopback

/-- The registry that every daemon starts with. -/
def DriverRegistry.standard : DriverRegistry Loopback := ⟨[(Loopback.key, Loopback.factory)]⟩

end TargetBench
