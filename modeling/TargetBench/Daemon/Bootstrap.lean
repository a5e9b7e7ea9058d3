import TargetBench.Configuration.Layers
import TargetBench.Endpoint.Preparation
import TargetBench.Session.Event
import TargetBench.Telemetry.Filter

/-!
# Starting a daemon

A daemon reads its configuration, sets up its log, and makes the directory of its socket, in this
order; the first failure ends it.

## Main definitions

* `BootstrapError`: why a daemon does not start
* `HealthEvent`: what a daemon reports
* `Bootstrap.run`: the start of a daemon
-/

namespace TargetBench

/-- Why a daemon does not start. -/
inductive BootstrapError where
  | configuration (errors : List ConfigurationError)
  /-- The log cannot be set up. -/
  | telemetry
  | socket (source : PreparationError)
deriving DecidableEq

/-- The text of an error. The wording about configurations and log filters is not fixed. -/
def BootstrapError.message : BootstrapError → String
  | configuration _ => "failed to load configuration: " ++ Complaint.settings
  | telemetry => "failed to initialise telemetry: invalid log filter: " ++ Complaint.filter
  | socket source => "failed to prepare daemon socket: " ++ source.message

/-- What a report calls an error. -/
def BootstrapError.label : BootstrapError → String
  | configuration _ => "Configuration"
  | telemetry => "Telemetry"
  | socket source => "Socket." ++ source.label

instance : Reported BootstrapError := ⟨BootstrapError.label, BootstrapError.message⟩

/-- What a daemon reports. -/
inductive HealthEvent where
  | bootstrapStarting
  | bootstrapSucceeded (c : Configuration)
  | bootstrapFailed (e : BootstrapError)
  | session (e : SessionEvent)

namespace HealthEvent

/-- The log record of an event. -/
def record : HealthEvent → LogRecord
  | bootstrapStarting => ⟨.info, SessionEvent.logTarget, "starting daemon bootstrap",
      [("event", .text "bootstrap_starting")]⟩
  | bootstrapSucceeded c => ⟨.info, SessionEvent.logTarget, "daemon bootstrap completed",
      [("event", .text "bootstrap_succeeded"), ("socket", .text c.daemonSocket.text),
        ("spec_dir", .text c.specDir), ("isolation", .text (Mode.name c.isolation)),
        ("log_filter", .text c.logFilter), ("log_format", .text c.logFormat.title)]⟩
  | bootstrapFailed e => ⟨.error, SessionEvent.logTarget, "daemon bootstrap failed",
      [("event", .text "bootstrap_failed"), ("error", .text e.message)]⟩
  | session e => e.record

end HealthEvent

/-- How a start went. -/
structure Bootstrap where
  /-- What was reported, in order. -/
  events : List HealthEvent
  outcome : Except BootstrapError Configuration
  /-- The file system that is left. -/
  files : FileSystem

namespace Bootstrap

/-- Whether the log can be set up for a configuration: its filter has to be one. -/
def hasSoundFilter (c : Configuration) : Bool := LogFilter.isValid c.logFilter

/-- A start that failed. -/
def failed (e : BootstrapError) (fs : FileSystem) : Bootstrap :=
  ⟨[.bootstrapStarting, .bootstrapFailed e], .error e, fs⟩

/-- The start of a daemon, given its configuration and whether the log can be set up for it. -/
def run (loaded : Except (List ConfigurationError) Configuration)
    (hasLog : Configuration → Bool) (fs : FileSystem) : Bootstrap :=
  match loaded with
  | .error errors => failed (.configuration errors) fs
  | .ok c =>
    if ¬ hasLog c then failed .telemetry fs
    else match c.daemonSocket.prepare fs with
      | (fs, .error e) => failed (.socket e) fs
      | (fs, .ok ()) => ⟨[.bootstrapStarting, .bootstrapSucceeded c], .ok c, fs⟩

end Bootstrap

end TargetBench
