import TargetBench.Configuration.Mode
import TargetBench.Endpoint.Basic
import TargetBench.FileSystem.Path

/-!
# Configurations

The settings of a daemon, and what they are where nothing else is said. The defaults depend on the
surroundings of the daemon: sockets and specifications live in the directory for running programs
if there is one, and else in a directory of the user among the temporary files.

## Main definitions

* `Configuration`: the settings of a daemon
* `Surroundings`: the variables and the user that a program finds
* `Configuration.ofSurroundings`: the default settings
* `Configuration.decode`: the settings of a document, defaults taken for missing ones
-/

namespace TargetBench

/-- The settings of a daemon. -/
structure Configuration where
  /-- Where the daemon listens. -/
  daemonSocket : SocketEndpoint
  /-- Which records of the log are written. -/
  logFilter : String
  logFormat : LogFormat
  /-- The directory of all specifications. -/
  specDir : String
  isolation : Isolation
  /-- The path of the socket for notifications, if there is one. -/
  callbackSocket : Option String
  /-- The name of the service instance. -/
  serviceName : String
  /-- Calls that take longer, in milliseconds, are warned about. -/
  slowCallMs : Unsigned 64
deriving DecidableEq

/-- The variables and the user that a program finds. -/
structure Surroundings where
  /-- Names and values. -/
  entries : List (String × String)
  /-- The number of the user. -/
  user : Nat

namespace Surroundings

/-- The value of a variable. -/
def value? (s : Surroundings) (name : String) : Option String := s.entries.lookup name

/-- The value of a variable that is not empty. -/
def filled? (s : Surroundings) (name : String) : Option String :=
  (s.value? name).filter fun value => !value.isEmpty

/-- The directory for temporary files. -/
def temporary (s : Surroundings) : String := (s.value? "TMPDIR").getD "/tmp"

/-- The directory for running programs, which has to be an absolute path. -/
def runtime? (s : Surroundings) : Option String :=
  (s.value? "XDG_RUNTIME_DIR").filter Path.isAbsolute

/-- The name of the program in directories that programs share. -/
def programName : String := "halprobe"

/-- The directory of the program. -/
def base (s : Surroundings) : String :=
  match s.runtime? with
  | some directory => Path.push directory programName
  | none => Path.push (Path.push s.temporary programName) ("uid-" ++ Decimal.text s.user)

end Surroundings

namespace Configuration

/-- The default settings. -/
def ofSurroundings (s : Surroundings) : Configuration where
  daemonSocket := ⟨Path.push s.base "halprobed.sock"⟩
  logFilter := "info"
  logFormat := .json
  specDir := Path.push s.base "spec"
  isolation := .process
  callbackSocket := none
  serviceName := "default"
  slowCallMs := Unsigned.clamp 64 5000

/-- The names of the settings in documents. -/
def fieldNames : List String :=
  ["daemon_socket", "log_filter", "log_format", "spec_dir", "isolation", "callback_socket",
    "service_name", "slow_call_ms"]

/-- The members of a configuration's document. -/
def members (c : Configuration) : List (String × Json) :=
  [("daemon_socket", Wire.toJson c.daemonSocket), ("log_filter", .ofText c.logFilter),
    ("log_format", Wire.toJson c.logFormat), ("spec_dir", .ofText c.specDir),
    ("isolation", Wire.toJson c.isolation),
    ("callback_socket", (c.callbackSocket.map Json.ofText).getD .null),
    ("service_name", .ofText c.serviceName), ("slow_call_ms", .ofInt c.slowCallMs.val)]

/-- The document of a configuration. -/
def toJson (c : Configuration) : Json := .record c.members

/-- The configuration of a document. Missing settings are those of `standard`. -/
def decode (standard : Configuration) : Decoder Configuration :=
  .record fieldNames fun f => do
    let daemonSocket ← f.defaulted "daemon_socket" Wire.decode standard.daemonSocket
    let logFilter ← f.defaulted "log_filter" .text standard.logFilter
    let logFormat ← f.defaulted "log_format" Wire.decode standard.logFormat
    let specDir ← f.defaulted "spec_dir" .text standard.specDir
    let isolation ← f.defaulted "isolation" Wire.decode standard.isolation
    let callbackSocket ← f.optional "callback_socket" .text
    let serviceName ← f.defaulted "service_name" .text standard.serviceName
    let slowCallMs ← f.defaulted "slow_call_ms" .integer standard.slowCallMs
    return ⟨daemonSocket, logFilter, logFormat, specDir, isolation, callbackSocket, serviceName,
      slowCallMs⟩

end Configuration

end TargetBench
