import TargetBench.Session.Dispatch

/-!
# Sessions

A session answers the frames of one connection in their order, each with one line, until the agent
asks for the end, closes the connection, or something fails.

## Main definitions

* `Session β`: a session between two frames
* `Session.advance`: the handling of one frame
* `Session.run`: the handling of all frames of a connection
* `Session.serve`: the same, from the event that opens the session to the one that closes it
-/

namespace TargetBench

/-- A session between two frames. -/
structure Session (β : Type) where
  /-- What is loaded. -/
  state : β
  /-- How many commands were answered, or could not be. -/
  commands : Nat
  /-- Why the session ended, if it has. -/
  ending : Option SessionEnd

/-- An answer that was sent, and what happened since the one before. -/
structure Exchange where
  response : Response
  effects : List Effect

namespace Exchange

/-- The line that is sent. -/
def line (e : Exchange) : String := encodeText e.response ++ "\n"

end Exchange

/-- All that happened in a session. -/
structure Transcript (β : Type) where
  exchanges : List Exchange
  /-- What happened after the last answer. -/
  rest : List Effect
  state : β
  commands : Nat
  ending : SessionEnd

namespace Session

variable {β : Type}

/-- A session that begins. -/
def fresh (state : β) : Session β := ⟨state, 0, none⟩

/-- Handles one frame. The line is sent only if the connection still takes one; the effects are
those of the command either way. -/
def advance (service : ComponentService β) (settings : SessionSettings) (writable : Bool)
    (s : Session β) (frame : List UInt8) : Session β × Option Response × List Effect :=
  match (decodeBytes frame : Option CommandRecord) with
  | none => ({ s with ending := some (.failed .decode) }, none, [])
  | some record =>
    let answer := dispatch service settings s.state record.command
    let ending :=
      if ¬ writable then some (SessionEnd.failed .write)
      else if answer.proceeds then none
      else some .exited
    (⟨answer.state, s.commands + 1, ending⟩,
      if writable then some answer.response else none, answer.effects)

/-- Why a session ends after all frames of a connection. -/
def endingOf : Option FrameError → SessionEnd
  | none => .peerClosed
  | some e => .failed (.ofFrameError e)

/-- Handles frames until the session ends. The service is given as it is at the command of a
number, and so is whether the connection takes another line; effects that no answer has followed
yet are given too. -/
def run (service : Nat → ComponentService β) (settings : SessionSettings) (writable : Nat → Bool)
    (last : Option FrameError) (pending : List Effect) (s : Session β) :
    List (List UInt8) → Transcript β
  | [] => ⟨[], pending, s.state, s.commands, endingOf last⟩
  | frame :: frames =>
    let (next, response, effects) :=
      s.advance (service s.commands) settings (writable s.commands) frame
    let effects := pending ++ effects
    match response, next.ending with
    | none, ending => ⟨[], effects, next.state, next.commands, ending.getD (endingOf last)⟩
    | some response, some ending =>
      ⟨[⟨response, effects⟩], [], next.state, next.commands, ending⟩
    | some response, none =>
      let transcript := run service settings writable last [] next frames
      { transcript with exchanges := ⟨response, effects⟩ :: transcript.exchanges }

/-- Handles a connection from the event that opens the session to the one that closes it. -/
def serve (service : Nat → ComponentService β) (settings : SessionSettings)
    (writable : Nat → Bool) (state : β) (stream : FrameStream) : Transcript β :=
  let transcript := run service settings writable stream.error
    [.reported (.opened settings.session)] (fresh state) stream.frames
  { transcript with rest := transcript.rest
      ++ [.reported (.closed settings.session transcript.commands transcript.ending)] }

end Session

end TargetBench
