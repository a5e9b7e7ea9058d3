import TargetBench.Json.Wire
import TargetBench.Number.Decimal

/-!
# Component classes

The kinds of components that a session can load. A class has a number, which load commands and
specification files use.

## Main definitions

* `ComponentClass`: the classes
* `ComponentClass.ofId?`: the class of a number
* `ComponentClass.isService`: whether components of a class are found by package and name
-/

namespace TargetBench

/-- The classes of components. -/
inductive ComponentClass where
  /-- A module behind a conventional hardware interface. -/
  | conventional
  /-- A part of such a module. -/
  | conventionalSubmodule
  /-- A module of the generation before. -/
  | legacy
  /-- A service that is found by package and name. -/
  | service
  /-- A service around a conventional module, which is found like the module. -/
  | wrappedConventional
  /-- A plain shared library. -/
  | sharedLibrary
  /-- The interface of the kernel. -/
  | kernel
  /-- A module of the kernel. -/
  | kernelModule
deriving DecidableEq

namespace ComponentClass

/-- All classes. -/
def all : List ComponentClass :=
  [conventional, conventionalSubmodule, legacy, service, wrappedConventional, sharedLibrary, kernel,
    kernelModule]

/-- The number of a class. -/
def id : ComponentClass → Signed 32
  | conventional => ⟨1, by decide, by decide⟩
  | conventionalSubmodule => ⟨2, by decide, by decide⟩
  | legacy => ⟨3, by decide, by decide⟩
  | service => ⟨4, by decide, by decide⟩
  | wrappedConventional => ⟨5, by decide, by decide⟩
  | sharedLibrary => ⟨11, by decide, by decide⟩
  | kernel => ⟨21, by decide, by decide⟩
  | kernelModule => ⟨22, by decide, by decide⟩

/-- The class of a number. -/
def ofId? (n : Signed 32) : Option ComponentClass := all.find? fun c => c.id = n

/-- The class of the number of a class is the class. -/
theorem ofId?_id (c : ComponentClass) : ofId? c.id = some c := by
  cases c <;> decide

theorem ofId?_eq_some_iff {n : Signed 32} {c : ComponentClass} : ofId? n = some c ↔ c.id = n := by
  constructor
  · intro h
    simpa using List.find?_some h
  · rintro rfl
    exact ofId?_id c

theorem ofId?_eq_none_iff {n : Signed 32} : ofId? n = none ↔ ∀ c : ComponentClass, c.id ≠ n := by
  simp only [Option.eq_none_iff_forall_ne_some, ne_eq, ofId?_eq_some_iff]

/-- The message about a number that no class has. -/
def unknownMessage (n : Signed 32) : String :=
  "unknown component class " ++ Decimal.signedText n.val

/-- Whether components of the class are found by package and name instead of type and path. -/
def isService (c : ComponentClass) : Bool := c = service

/-- The name of a class in reports. -/
def label : ComponentClass → String
  | conventional => "HalConventional"
  | conventionalSubmodule => "HalConventionalSubmodule"
  | legacy => "HalLegacy"
  | service => "HalHidl"
  | wrappedConventional => "HalHidlWrappedConventional"
  | sharedLibrary => "LibShared"
  | kernel => "Kernel"
  | kernelModule => "KernelModule"

instance : Wire ComponentClass where
  toJson c := .ofInt c.id.val
  decode budget doc := (Decoder.integer budget doc).bind ofId?

end ComponentClass

end TargetBench
