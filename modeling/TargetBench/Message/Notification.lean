import TargetBench.Message.Call

/-!
# Notifications

What an agent is told when a component calls one of the agent's callbacks.

## Main definitions

* `Notification`: the record of a notification
-/

namespace TargetBench

/-- What an agent is told when a component calls back. -/
structure Notification where
  /-- The name under which the agent keeps the callback object. -/
  id : String
  /-- The callback function that was called. -/
  name : String
  args : List Value
deriving BEq

namespace Notification

/-- The document of a notification. -/
def toJson (n : Notification) : Json :=
  .record [("id", .ofText n.id), ("name", .ofText n.name), ("args", Value.arrayOf n.args)]

/-- The notification of a document. -/
def decode : Decoder Notification :=
  Decoder.record ["id", "name", "args"] fun f => do
    return {
      id := ← f.required "id" Decoder.text
      name := ← f.required "name" Decoder.text
      args := ← f.defaulted "args" (Decoder.list Wire.decode) [] }

instance : Wire Notification := ⟨toJson, decode⟩

end Notification

end TargetBench
