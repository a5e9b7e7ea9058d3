import TargetBench.Component.Interface
import TargetBench.FileSystem.Path
import TargetBench.Message.Command
import TargetBench.Text.Blank

/-!
# Queries for specifications

What a load request asks for. A service is asked for by package and, if one is named, interface;
every other component by its type.

## Main definitions

* `ComponentQuery`: what is asked for
* `ComponentQuery.ofRequest`: the query of a load request
* `ComponentQuery.admits`: whether an interface is what is asked for
* `ComponentQuery.directory`: where its specification is looked for
-/

namespace TargetBench

/-- What a load request asks for. -/
structure ComponentQuery where
  componentClass : ComponentClass
  componentType : Signed 32
  version : Binary32
  /-- The package; services only. -/
  package : Option String
  /-- The interface, if one is named; services only. -/
  name : Option String
deriving BEq

/-- Why a request cannot be understood. -/
inductive QueryError where
  | unknownClass (id : Signed 32)
  /-- The module name of a service request names no package. -/
  | missingPackage (module : String)

/-- A module name taken apart: the package, which is empty if none is named, and the interface.
The interface follows the first double colon, and what follows an at-sign is no part of the
package. -/
def splitModuleName (module : String) : String × Option String :=
  let (front, interface) := match Text.cut? "::" module with
    | some (front, interface) => (front, some interface)
    | none => (module, none)
  let package := match Text.cut? "@" front with
    | some (package, _) => package
    | none => front
  (Text.trim package, (interface.map Text.trim).filter fun name => !name.isEmpty)

namespace ComponentQuery

/-- The query of a load request. -/
def ofRequest (r : LoadRequest) : Except QueryError ComponentQuery :=
  match ComponentClass.ofId? r.componentClass with
  | none => .error (.unknownClass r.componentClass)
  | some c =>
    if c.isService then
      let (package, name) := splitModuleName r.moduleName
      if package.isEmpty then .error (.missingPackage r.moduleName)
      else .ok ⟨c, r.componentType, r.version, some package, name⟩
    else .ok ⟨c, r.componentType, r.version, none, none⟩

/-- The directory in which specifications are looked for: for a service, the parts of its package
and its version lead there from the directory of all specifications. -/
def directory (q : ComponentQuery) (all : String) : String :=
  match q.package with
  | none => all
  | some package =>
    Path.push ((Text.pieces '.' package).foldl Path.push all) q.version.text

/-- Whether an interface is what is asked for. -/
def admits (q : ComponentQuery) (i : Interface) : Bool :=
  i.componentClass = q.componentClass && i.version == q.version &&
    match q.package with
    | none => i.componentType = q.componentType
    | some package => i.package = some package && (q.name.all fun name => name = i.name)

/-- A query in messages. -/
def display (q : ComponentQuery) : String :=
  match q.package with
  | some package =>
    package ++ "@" ++ q.version.text ++ (match q.name with
      | some name => "::" ++ name
      | none => "")
  | none =>
    "class " ++ Decimal.signedText q.componentClass.id.val ++ " type "
      ++ Decimal.signedText q.componentType.val ++ " version " ++ q.version.text

end ComponentQuery

end TargetBench
