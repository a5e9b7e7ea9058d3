import TargetBench.Daemon.Bootstrap
import TargetBench.Daemon.Connection
import TargetBench.Endpoint.Listener
import TargetBench.Loopback.Controller

/-!
# Runs of a daemon

A run starts, listens at its socket, serves every agent that connects until it is told to stop, and
removes its socket.

## Main definitions

* `LaunchError`: why a run fails
* `DaemonRun`: how a run went
* `DaemonRun.launch`: a run of a daemon
-/

namespace TargetBench

/-- Why a run fails. -/
inductive LaunchError where
  | bootstrap (source : BootstrapError)
  | listener (source : ListenerError)
deriving DecidableEq

/-- The text of an error. -/
def LaunchError.message : LaunchError → String
  | bootstrap source => "daemon bootstrap failed: " ++ source.message
  | listener source => "daemon socket listener failed: " ++ source.message

/-- What a report calls an error. -/
def LaunchError.label : LaunchError → String
  | bootstrap _ => "Bootstrap"
  | listener _ => "Listener"

instance : Reported LaunchError := ⟨LaunchError.label, LaunchError.message⟩

/-- The channel to the socket at a path, as the socket is found. -/
def CallbackChannel.ofPath (fs : FileSystem) : Option String → CallbackChannel
  | none => .disconnected
  | some path => match fs.resolve path with
    | .ok location => .socket path (fs.node? location = some (.socket true))
    | .error _ => .socket path false

/-- What the sessions of a daemon share. The duration of each call is given by the numbers of its
session and command. -/
def Configuration.host (c : Configuration) (fs : FileSystem) (status : Signed 32 → Signed 32)
    (elapsed : Nat → Nat → Unsigned 64) : Host (Builder Loopback) where
  service session command := Builder.service fs (elapsed session command)
  settings session := ⟨session, status, c.slowCallMs.val.toNat * Dispatch.millisecond⟩
  fresh := Builder.fresh ⟨c.specDir, c.serviceName, .ofPath fs c.callbackSocket⟩
    DriverRegistry.standard

/-- What a daemon depends on besides its configuration and its agents. -/
structure DaemonSettings where
  /-- Whether the log can be set up for a configuration. -/
  hasLog : Configuration → Bool
  /-- What a status probe about a matter gives. -/
  status : Signed 32 → Signed 32
  /-- How long a call takes, in nanoseconds, by the numbers of its session and command. -/
  elapsed : Nat → Nat → Unsigned 64

/-- How a run went. -/
structure DaemonRun where
  /-- What the daemon itself reported. -/
  events : List HealthEvent
  connections : List (Connection (Builder Loopback))
  outcome : Except LaunchError Configuration
  /-- The file system that is left. -/
  files : FileSystem

namespace DaemonRun

/-- A run of a daemon, given its configuration and what its agents do before it is told to stop. -/
def launch (settings : DaemonSettings)
    (loaded : Except (List ConfigurationError) Configuration) (activities : List Activity)
    (fs : FileSystem) : DaemonRun :=
  let start := Bootstrap.run loaded settings.hasLog fs
  match start.outcome with
  | .error e => ⟨start.events, [], .error (.bootstrap e), start.files⟩
  | .ok c => match c.daemonSocket.listen start.files with
    | (files, .error e) => ⟨start.events, [], .error (.listener e), files⟩
    | (bound, .ok ()) =>
      let host := c.host bound settings.status settings.elapsed
      ⟨start.events, host.serve activities, .ok c, c.daemonSocket.release bound⟩

/-- What was reported about each session, as far as it reached the daemon: a session that is a
process of its own keeps its reports. -/
def sessionEvents (r : DaemonRun) : List (List SessionEvent) :=
  match r.outcome with
  | .ok c => if c.isolation = .thread then r.connections.map Connection.events else []
  | .error _ => []

end DaemonRun

end TargetBench
