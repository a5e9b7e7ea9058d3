import TargetBench.Message.Notification
import TargetBench.Text.Complaint

/-!
# Callback channels

How a component's notifications reach the agent. A channel leads to a socket of the agent; each
notification is one line on a connection of its own.

## Main definitions

* `CallbackChannel`: where notifications go
* `CallbackChannel.notify`: the line that a notification becomes, if it can be delivered
* `CallbackOwners`: which callback object of the agent owns which callback function
-/

namespace TargetBench

/-- Where notifications go. -/
inductive CallbackChannel where
  /-- Nowhere. -/
  | disconnected
  /-- To the socket at a path, which the agent may or may not be serving. -/
  | socket (path : String) (served : Bool)
deriving DecidableEq

/-- Why a notification is not delivered. -/
inductive CallbackError where
  | notConnected
  /-- No callback object owns the function. -/
  | unregistered (name : String)
  /-- Nobody serves the socket. -/
  | connect (path : String)

/-- The text of an error. -/
def CallbackError.message : CallbackError → String
  | notConnected => "callback channel is not connected"
  | unregistered name => "no callback registered for '" ++ name ++ "'"
  | connect path => "failed to connect to callback socket " ++ path ++ ": " ++ Complaint.system

/-- What a report calls an error. -/
def CallbackError.label : CallbackError → String
  | notConnected => "NotConnected"
  | unregistered _ => "Unregistered"
  | connect _ => "Connect"

instance : Reported CallbackError := ⟨CallbackError.label, CallbackError.message⟩

namespace CallbackChannel

/-- The path of the agent's socket. -/
def path? : CallbackChannel → Option String
  | disconnected => none
  | socket path _ => some path

/-- The line that a notification is sent as. -/
def line (n : Notification) : String := encodeText n ++ "\n"

/-- The line that a notification becomes on its way to the agent. -/
def notify (n : Notification) : CallbackChannel → Except CallbackError String
  | disconnected => .error .notConnected
  | socket _ true => .ok (line n)
  | socket path false => .error (.connect path)

end CallbackChannel

/-- Callback functions, each with the callback object that owns it. -/
structure CallbackOwners where
  entries : List (String × String)
deriving DecidableEq

namespace CallbackOwners

/-- No function is owned. -/
def empty : CallbackOwners := ⟨[]⟩

/-- The callback object that owns a function. -/
def owner? (o : CallbackOwners) (function : String) : Option String := o.entries.lookup function

/-- Makes a callback object the owner of a function, in place of the one before. -/
def register (o : CallbackOwners) (function id : String) : CallbackOwners :=
  ⟨(function, id) :: o.entries.filter fun e => e.1 ≠ function⟩

/-- The notification about a call of a function. -/
def request (o : CallbackOwners) (function : String) (args : List Value) :
    Except CallbackError Notification :=
  match o.owner? function with
  | some id => .ok ⟨id, function, args⟩
  | none => .error (.unregistered function)

end CallbackOwners

end TargetBench
