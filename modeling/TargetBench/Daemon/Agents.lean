import TargetBench.Daemon.Connection
import TargetBench.Message.Command

/-!
# Agents

Agents by name. An agent that connects again leaves its earlier connection; after each request it
waits for one line.

## Main definitions

* `AgentStep`: what an agent does
* `Agents.step`: the activity that a step amounts to, and what the agent gets for it
* `Agents.leave`: the activities with which all agents go away
-/

namespace TargetBench

/-- What an agent does. -/
inductive AgentStep where
  | connect (agent : String)
  | close (agent : String)
  | request (agent : String) (bs : List UInt8)

/-- What an agent gets for a step. -/
inductive AgentReply where
  | connected
  | closed
  /-- A line of a connection, by the place of the connection and the number of the line. -/
  | line (place index : Nat)
  /-- Nothing, as the agent is not connected. -/
  | nothing

/-- Which agents are connected. -/
structure Agents where
  /-- The place of each agent's connection, and for how many lines it has waited. -/
  places : List (String × Nat × Nat)
  /-- How many connections there were. -/
  count : Nat
  /-- What the agents did, in order. -/
  activities : List Activity
  /-- What they got for it, in order. -/
  replies : List AgentReply

namespace Agents

/-- No agent has done anything yet. -/
def empty : Agents := ⟨[], 0, [], []⟩

/-- An agent's earlier connection is left. -/
def left (a : Agents) (agent : String) : List Activity :=
  ((a.places.lookup agent).map fun (place, _) => Activity.hangUp place).toList

/-- The places of all other agents. -/
def others (a : Agents) (agent : String) : List (String × Nat × Nat) :=
  a.places.filter fun p => p.1 ≠ agent

/-- One more step. -/
def step (a : Agents) : AgentStep → Agents
  | .connect agent =>
    ⟨(agent, a.count, 0) :: a.others agent, a.count + 1,
      a.activities ++ .connect :: a.left agent, a.replies ++ [.connected]⟩
  | .close agent =>
    { a with
      places := a.others agent
      activities := a.activities ++ a.left agent
      replies := a.replies ++ [.closed] }
  | .request agent bs => match a.places.lookup agent with
    | some (place, waited) =>
      { a with
        places := (agent, place, waited + 1) :: a.others agent
        activities := a.activities ++ [.send place bs]
        replies := a.replies ++ [.line place waited] }
    | none => { a with replies := a.replies ++ [.nothing] }

/-- The command with which an agent ends its session. -/
def exitLine : List UInt8 := Utf8.bytes (encodeText Command.exit.record ++ "\n")

/-- The activities with which all agents go away; `exits` tells whether they end their sessions
first. -/
def leave (a : Agents) (exits : Bool) : List Activity :=
  a.places.flatMap fun (_, place, _) =>
    (if exits then [.send place exitLine] else []) ++ [.hangUp place]

end Agents

end TargetBench
