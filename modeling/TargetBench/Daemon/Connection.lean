import TargetBench.Session.Server

/-!
# Connections

A daemon serves all its agents side by side. Each connection has a session of its own, numbered in
the order in which the agents connected; what the sessions share never changes.

## Main definitions

* `Host β`: what all sessions share
* `Connection β`: a connection and its session
* `Connection.receive`, `Connection.hangUp`: what arrives on a connection
* `Activity`: what agents do
* `Host.serve`: all connections after some activities
-/

namespace TargetBench

/-- What all sessions share. -/
structure Host (β : Type) where
  /-- What a session can do at its command of a number. Sessions are told apart by number because
  durations differ. -/
  service : Nat → Nat → ComponentService β
  /-- The settings of the session of a number. -/
  settings : Nat → SessionSettings
  /-- What a session begins with. -/
  fresh : β

/-- A connection and its session. -/
structure Connection (β : Type) where
  /-- The number of the session. -/
  number : Nat
  /-- The bytes of the line that has begun, the last one first. -/
  begun : List UInt8
  session : Session β
  /-- The answers sent so far. -/
  exchanges : List Exchange
  /-- What happened after the last answer. -/
  pending : List Effect

namespace Connection

variable {β : Type}

/-- A connection that has just been accepted. -/
def accept (host : Host β) (number : Nat) : Connection β :=
  ⟨number, [], Session.fresh host.fresh, [], [.reported (.opened (host.settings number).session)]⟩

/-- Whether the session has ended. -/
def isOver (c : Connection β) : Bool := c.session.ending.isSome

/-- Ends the session, unless it has ended already. -/
def finish (host : Host β) (ending : SessionEnd) (c : Connection β) : Connection β :=
  if c.isOver then c
  else
    { c with
      session := { c.session with ending := some ending }
      pending := c.pending
        ++ [.reported (.closed (host.settings c.number).session c.session.commands ending)] }

/-- Handles one frame, unless the session has ended. -/
def handle (host : Host β) (c : Connection β) (frame : List UInt8) : Connection β :=
  if c.isOver then c
  else
    let (next, response, effects) := c.session.advance (host.service c.number c.session.commands)
      (host.settings c.number) true frame
    let effects := c.pending ++ effects
    let c : Connection β := match response with
      | some response =>
        { c with session := next, exchanges := c.exchanges ++ [⟨response, effects⟩], pending := [] }
      | none => { c with session := next, pending := effects }
    match next.ending with
    | none => c
    | some ending => { c with session := { next with ending := none } }.finish host ending

/-- Bytes arrive. -/
def receive (host : Host β) (c : Connection β) (bs : List UInt8) : Connection β :=
  let cut := Frame.cut c.begun bs
  let c := cut.frames.foldl (handle host) { c with begun := cut.begun }
  if cut.tooLarge then c.finish host (.failed .frameTooLarge) else c

/-- The agent closes the connection. A line that it breaks off by this is a frame too. -/
def hangUp (host : Host β) (c : Connection β) : Connection β :=
  let c := if c.begun.isEmpty then c else handle host { c with begun := [] } c.begun.reverse
  c.finish host .peerClosed

/-- The lines that were sent to the agent. -/
def lines (c : Connection β) : List String := c.exchanges.map Exchange.line

/-- All that happened, in order. -/
def effects (c : Connection β) : List Effect := c.exchanges.flatMap Exchange.effects ++ c.pending

/-- What was reported about the session. -/
def events (c : Connection β) : List SessionEvent :=
  c.effects.filterMap fun
    | .reported e => some e
    | _ => none

end Connection

/-- What agents do. Connections are counted from zero. -/
inductive Activity where
  /-- One more agent connects. -/
  | connect
  | send (place : Nat) (bs : List UInt8)
  | hangUp (place : Nat)

namespace Host

variable {β : Type}

/-- The number of the first session. -/
def firstNumber : Nat := 1

/-- The connections after one more activity. -/
def act (host : Host β) (cs : List (Connection β)) : Activity → List (Connection β)
  | .connect => cs ++ [Connection.accept host (cs.length + firstNumber)]
  | .send place bs => cs.modify place fun c => c.receive host bs
  | .hangUp place => cs.modify place fun c => c.hangUp host

/-- All connections after some activities. -/
def serve (host : Host β) (activities : List Activity) : List (Connection β) :=
  activities.foldl host.act []

end Host

end TargetBench
