import TargetBench.Driver.Enumerated

/-!
# Enumerated types of the loopback controller

## Main definitions

* `NfcStatus`: how the controller answers
* `NfcEvent`: what the controller reports to its client
-/

namespace TargetBench

/-- How the controller answers. -/
inductive NfcStatus where
  | ok
  | failed
  | transportError
  | commandTimeout
  | refused
deriving DecidableEq

/-- What the controller reports to its client. -/
inductive NfcEvent where
  | openComplete
  | closeComplete
  | postInitComplete
  | preDiscoverComplete
  | requestControl
  | releaseControl
  | error
deriving DecidableEq

/-- The discriminant at a place of a list of members. -/
def placeDiscriminant (place : Nat) : Unsigned 32 := Unsigned.clamp 32 place

namespace NfcStatus

/-- The members, in the order of their discriminants from zero. -/
def all : List NfcStatus := [ok, failed, transportError, commandTimeout, refused]

/-- The discriminant of a member. -/
def place : NfcStatus → Nat
  | ok => 0
  | failed => 1
  | transportError => 2
  | commandTimeout => 3
  | refused => 4

/-- The name of a member. -/
def name : NfcStatus → String
  | ok => "Ok"
  | failed => "Failed"
  | transportError => "ErrTransport"
  | commandTimeout => "ErrCmdTimeout"
  | refused => "Refused"

instance : Enumerated NfcStatus where
  typeName := "loopback.nfc@1.0::NfcStatus"
  underlying := .uint32
  ofDiscriminant? n := all[n.val.toNat]?
  discriminant e := placeDiscriminant e.place

end NfcStatus

namespace NfcEvent

/-- The members, in the order of their discriminants from zero. -/
def all : List NfcEvent :=
  [openComplete, closeComplete, postInitComplete, preDiscoverComplete, requestControl,
    releaseControl, error]

/-- The discriminant of a member. -/
def place : NfcEvent → Nat
  | openComplete => 0
  | closeComplete => 1
  | postInitComplete => 2
  | preDiscoverComplete => 3
  | requestControl => 4
  | releaseControl => 5
  | error => 6

/-- The name of a member. -/
def name : NfcEvent → String
  | openComplete => "OpenCplt"
  | closeComplete => "CloseCplt"
  | postInitComplete => "PostInitCplt"
  | preDiscoverComplete => "PreDiscoverCplt"
  | requestControl => "RequestControl"
  | releaseControl => "ReleaseControl"
  | error => "Error"

instance : Enumerated NfcEvent where
  typeName := "loopback.nfc@1.0::NfcEvent"
  underlying := .uint32
  ofDiscriminant? n := all[n.val.toNat]?
  discriminant e := placeDiscriminant e.place

end NfcEvent

end TargetBench
