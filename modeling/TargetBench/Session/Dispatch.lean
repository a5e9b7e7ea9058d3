import TargetBench.Message.Response
import TargetBench.Session.Event

/-!
# Dispatch of commands

How one command is answered, given what can load and call components.

## Main definitions

* `ComponentService β`: loading and calling components, over a state
* `SessionSettings`: what answers depend on besides the command
* `dispatch`: the answer to a command
* `Builder.service`: the service of a builder
-/

namespace TargetBench

/-- Loading and calling components, over a state. -/
structure ComponentService (β : Type) where
  load : β → LoadRequest → Except LoadError Unit × β × List CallEffect
  invoke : β → Call → Except CallError CallResult × β × List CallEffect
  specification? : β → Option Interface

/-- What answers depend on besides the command. -/
structure SessionSettings where
  /-- The number of the session. -/
  session : Nat
  /-- What a status probe about a matter gives. -/
  status : Signed 32 → Signed 32
  /-- Calls that take longer, in nanoseconds, are warned about. -/
  slowCall : Nat

/-- The answer to a command, and whether the session goes on after it. -/
structure Answer (β : Type) where
  response : Response
  proceeds : Bool
  state : β
  effects : List Effect

/-- Why a call is answered with failure. -/
inductive DispatchError where
  | malformedCall (source : CodecError)
  | call (source : CallError)

/-- The text of an error. -/
def DispatchError.message : DispatchError → String
  | malformedCall source => "malformed function call description: " ++ source.message
  | call .nothingLoaded => CallError.nothingLoaded.message
  | call (.invoke source) => "function call failed: " ++ source.message

namespace Dispatch

/-- The part of the program that answers commands. -/
def logTarget : String := "halprobed::dispatch"

/-- The record about a call that failed. -/
def failureRecord (s : SessionSettings) (e : DispatchError) : LogRecord :=
  ⟨.warn, logTarget, "CALL_FUNCTION failed",
    [("session", .text (Decimal.text s.session)), ("error", .text e.message)]⟩

/-- How many nanoseconds a millisecond has. -/
def millisecond : Nat := 1000000

/-- The record about a call that took long. -/
def slowRecord (s : SessionSettings) (r : CallResult) : LogRecord :=
  ⟨.warn, logTarget, "native call exceeded the slow-call threshold",
    [("session", .text (Decimal.text s.session)), ("function", .text r.name),
      ("elapsed_ms", .number (r.elapsed.val / millisecond)),
      ("threshold_ms", .number (s.slowCall / millisecond))]⟩

/-- Warns about a call that took long. -/
def watch (s : SessionSettings) (r : CallResult) : List Effect :=
  if (s.slowCall : Int) < r.elapsed.val then [.logged (slowRecord s r)] else []

variable {β : Type}

/-- Answers a load request: zero, or minus one if it fails. -/
def load (service : ComponentService β) (s : SessionSettings) (b : β) (r : LoadRequest) :
    Answer β :=
  let (outcome, b, effects) := service.load b r
  let effects := effects.map Effect.ofCall
  match outcome with
  | .ok () => ⟨.ofValue (Signed.zero 32), true, b,
      effects ++ [.reported (.componentLoaded s.session r)]⟩
  | .error e => ⟨.ofValue ⟨-1, by decide, by decide⟩, true, b,
      effects ++ [.reported (.componentFailed s.session r e)]⟩

/-- Answers a call that a text describes: its result as a text, or failure. -/
def call (service : ComponentService β) (s : SessionSettings) (b : β) (description : String) :
    Answer β :=
  match (decodeText description : Except CodecError Call) with
  | .error e => ⟨.failure, true, b, [.logged (failureRecord s (.malformedCall e))]⟩
  | .ok c =>
    let (outcome, b, effects) := service.invoke b c
    let effects := effects.map Effect.ofCall
    match outcome with
    | .ok result => ⟨.ofMessage (encodeText result), true, b, effects ++ watch s result⟩
    | .error e => ⟨.failure, true, b, effects ++ [.logged (failureRecord s (.call e))]⟩

/-- Answers with the interface of the loaded component, if there is one. -/
def list (service : ComponentService β) (b : β) : Answer β :=
  match service.specification? b with
  | none => ⟨.success, true, b, []⟩
  | some i => ⟨.ofMessage (encodeText i), true, b, []⟩

end Dispatch

/-- The answer to a command. -/
def dispatch {β : Type} (service : ComponentService β) (s : SessionSettings) (b : β) :
    Command → Answer β
  | .exit => ⟨.success, false, b, []⟩
  | .load r => Dispatch.load service s b r
  | .status kind => ⟨.ofValue (s.status kind), true, b, []⟩
  | .call description => Dispatch.call service s b description
  | .list => Dispatch.list service b

/-- The service of a builder, with the files that are there and the duration of a call. -/
def Builder.service {δ : Type} (fs : FileSystem) (elapsed : Unsigned 64) :
    ComponentService (Builder δ) where
  load b r :=
    let (outcome, b, log) := b.load fs r
    (outcome, b, log.map CallEffect.logged)
  invoke b c := b.invoke elapsed c
  specification? b := b.specification?

end TargetBench
