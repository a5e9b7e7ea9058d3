import TargetBench.Json.Basic

/-!
# Documents laid over each other

Two objects are joined member by member; everything else takes the place of what is under it.

## Main definitions

* `Json.overlay`: a document laid over another one
-/

namespace TargetBench.Json

/-- Members with one of them given a new meaning. -/
def putMember (name : Quoted) (doc : Json) : List (Quoted × Json) → List (Quoted × Json)
  | [] => [(name, doc)]
  | m :: ms => if m.1 = name then (name, doc) :: ms else m :: putMember name doc ms

mutual

/-- A document laid over `lower`. -/
def overlay (lower : Json) : Json → Json
  | .object upper => match lower with
    | .object members => .object (overlayMembers members upper)
    | _ => .object upper
  | doc => doc

/-- Members laid over `lower`, one after the other. -/
def overlayMembers (lower : List (Quoted × Json)) : List (Quoted × Json) → List (Quoted × Json)
  | [] => lower
  | (name, doc) :: upper =>
    let joined := match lower.lookup name with
      | some under => overlay under doc
      | none => doc
    overlayMembers (putMember name joined lower) upper

end

end TargetBench.Json
