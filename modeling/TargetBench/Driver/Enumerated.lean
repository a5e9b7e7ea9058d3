import TargetBench.Driver.Argument

/-!
# Enumerated types

Native types with finitely many members that have discriminants of a scalar kind.

## Main definitions

* `Enumerated ε`: the name and the discriminants of a native type
* `Enumerated.member`: the member that a value stands for
* `Value.ofMember`: a member as a value
-/

namespace TargetBench

/-- A native type whose members have discriminants. -/
class Enumerated (ε : Type) where
  /-- The full name of the type. -/
  typeName : String
  /-- The kind of the discriminants. -/
  underlying : ScalarKind
  /-- The member of a discriminant. -/
  ofDiscriminant? : underlying.Native → Option ε
  /-- The discriminant of a member. -/
  discriminant : ε → underlying.Native

/-- A member as a value. -/
def Value.ofMember {ε : Type} [Enumerated ε] (e : ε) : Value :=
  .enumerated (Enumerated.typeName ε) ⟨Enumerated.underlying ε, Enumerated.discriminant e⟩

namespace Enumerated

variable (ε : Type) [Enumerated ε]

/-- The type as a declared type. -/
def descriptor : Descriptor := .enumerated (typeName ε) (underlying ε)

/-- The member that the value at a position stands for. -/
def member (index : Nat) : Value → Except MarshalError ε
  | .enumerated name x =>
    if name ≠ typeName ε then .error (.kind index (typeName ε) name)
    else match x.as? (underlying ε) with
      | none => .error (.kind index (underlying ε).name x.kind.name)
      | some n => match ofDiscriminant? n with
        | some e => .ok e
        | none => .error (.unknownMember (typeName ε) x)
  | other => .error (.mismatch index (descriptor ε) other)

end Enumerated

/-- The argument at a position, as a member of an enumerated type. -/
def Arguments.member (ε : Type) [Enumerated ε] (a : Arguments) (index : Nat) :
    Except MarshalError ε := do
  Enumerated.member ε index (← a.value index)

end TargetBench
