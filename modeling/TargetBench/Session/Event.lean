import TargetBench.Session.Frame
import TargetBench.Specification.Builder

/-!
# Session events

What the daemon reports about its sessions, to observers and to the log.

## Main definitions

* `SessionEnd`: why a session ended
* `SessionEvent`: what is reported
* `SessionEvent.record`: the log record of an event
* `Effect`: what a session does besides answering
-/

namespace TargetBench

/-- What breaks a session off. -/
inductive SessionError where
  /-- Reading from the connection failed. -/
  | read
  /-- A command was too long. -/
  | frameTooLarge
  /-- A frame is no command. -/
  | decode
  /-- Writing to the connection failed. -/
  | write
deriving DecidableEq

/-- The text of an error. -/
def SessionError.message : SessionError → String
  | read => "failed to read command: " ++ Complaint.system
  | frameTooLarge => "command exceeds " ++ Decimal.text Frame.limit ++ " bytes"
  | decode => "failed to decode command record: " ++ Complaint.document
  | write => "failed to send response: " ++ Complaint.system

/-- What a report calls an error. -/
def SessionError.label : SessionError → String
  | read => "Read"
  | frameTooLarge => "FrameTooLarge"
  | decode => "Decode"
  | write => "Write"

instance : Reported SessionError := ⟨SessionError.label, SessionError.message⟩

/-- The session error of a frame that cannot be read. -/
def SessionError.ofFrameError : FrameError → SessionError
  | .read => read
  | .tooLarge => frameTooLarge

/-- Why a session ended. -/
inductive SessionEnd where
  /-- The agent asked for it. -/
  | exited
  /-- The agent closed the connection. -/
  | peerClosed
  | failed (e : SessionError)
deriving DecidableEq

/-- What is reported about a session, which is given by its number. -/
inductive SessionEvent where
  | opened (session : Nat)
  /-- The session ended after so many commands. -/
  | closed (session commands : Nat) (ending : SessionEnd)
  | componentLoaded (session : Nat) (request : LoadRequest)
  | componentFailed (session : Nat) (request : LoadRequest) (error : LoadError)

namespace SessionEvent

/-- The part of the program that reports on its health. -/
def logTarget : String := "halprobed::health"

/-- The record about the end of a session. -/
def closedRecord (session commands : Nat) (ending : SessionEnd) : LogRecord :=
  let fields : List (String × LogField) :=
    [("event", .text "session_closed"), ("session", .text (Decimal.text session)),
      ("commands", .number commands)]
  match ending with
  | .failed e => ⟨.warn, logTarget, "session terminated after a transport failure",
      fields ++ [("error", .text e.message)]⟩
  | .exited => ⟨.info, logTarget, "session terminated", fields ++ [("end", .text "Exited")]⟩
  | .peerClosed => ⟨.info, logTarget, "session terminated", fields ++ [("end", .text "PeerClosed")]⟩

/-- The log record of an event. -/
def record : SessionEvent → LogRecord
  | opened session => ⟨.info, logTarget, "session started",
      [("event", .text "session_opened"), ("session", .text (Decimal.text session))]⟩
  | closed session commands ending => closedRecord session commands ending
  | componentLoaded session r => ⟨.info, logTarget, "target component loaded",
      [("event", .text "component_loaded"), ("session", .text (Decimal.text session)),
        ("path", .text r.path), ("class", .number r.componentClass.val),
        ("component_type", .number r.componentType.val), ("version", .text r.version.text),
        ("module", .text r.moduleName)]⟩
  | componentFailed session r e => ⟨.warn, logTarget, "target component failed to load",
      [("event", .text "component_failed"), ("session", .text (Decimal.text session)),
        ("path", .text r.path), ("class", .number r.componentClass.val),
        ("module", .text r.moduleName), ("error", .text e.message)]⟩

end SessionEvent

/-- What a session does besides answering. -/
inductive Effect where
  /-- A line is delivered to the agent's callback socket. -/
  | notified (line : String)
  /-- A record is logged. -/
  | logged (record : LogRecord)
  /-- An event is reported, and logged as its record. -/
  | reported (event : SessionEvent)

namespace Effect

/-- The effect of a call as an effect of the session. -/
def ofCall : CallEffect → Effect
  | .notified line => notified line
  | .logged record => logged record

/-- The log record of an effect. -/
def record? : Effect → Option LogRecord
  | notified _ => none
  | logged record => some record
  | reported event => some event.record

end Effect

end TargetBench
