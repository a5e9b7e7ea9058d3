import TargetBench.Driver.Registry
import TargetBench.FileSystem.Directory
import TargetBench.Specification.Query

/-!
# Looking up specifications

The specification files of a directory are tried in the order of their names. Files that cannot be
read or understood are passed over with a warning, and the first one that describes what is asked
for is taken.

## Main definitions

* `LoadError`: why a component cannot be loaded
* `SpecificationFile.ofDirectory?`: the specification files of a directory
* `Specification.find`: the specification of what a query asks for
-/

namespace TargetBench

/-- Why a component cannot be loaded. -/
inductive LoadError where
  | unknownClass (id : Signed 32)
  | missingPackage (module : String)
  /-- The directory of specifications cannot be listed. -/
  | specificationDirectory (directory : String)
  /-- No specification in the directory is the one asked for. -/
  | specificationNotFound (directory query : String)
  /-- There is no library at the requested path. -/
  | missingTarget (path : String)
  | driver (source : DriverError)

/-- The text of an error. -/
def LoadError.message : LoadError → String
  | unknownClass id => ComponentClass.unknownMessage id
  | missingPackage module => "module name '" ++ module ++ "' names no package"
  | specificationDirectory directory =>
    "failed to read specification directory " ++ directory ++ ": " ++ Complaint.system
  | specificationNotFound directory query =>
    "no interface specification in " ++ directory ++ " matches " ++ query
  | missingTarget path => "target component " ++ path ++ " does not exist"
  | driver source => source.message

/-- What a report calls an error. -/
def LoadError.label : LoadError → String
  | unknownClass _ => "UnknownClass"
  | missingPackage _ => "MissingPackage"
  | specificationDirectory _ => "SpecDirectory"
  | specificationNotFound .. => "SpecNotFound"
  | missingTarget _ => "MissingTarget"
  | driver source => "Driver." ++ source.label

instance : Reported LoadError := ⟨LoadError.label, LoadError.message⟩

/-- The load error of a request that cannot be understood. -/
def LoadError.ofQueryError : QueryError → LoadError
  | .unknownClass id => unknownClass id
  | .missingPackage module => missingPackage module

/-- A file that may hold a specification. -/
structure SpecificationFile where
  path : String
  content : List UInt8

namespace SpecificationFile

/-- How the names of specification files end. -/
def ending : String := ".spec.json"

/-- Whether a name is the name of a specification file. -/
def isName (name : String) : Bool := ending.toList.isSuffixOf name.toList

/-- The specification files of a directory, in the order of their names; none if the directory
cannot be listed. Only regular files count. -/
def ofDirectory? (fs : FileSystem) (directory : String) : Option (List SpecificationFile) :=
  match fs.resolve directory with
  | .error _ => none
  | .ok location =>
    if fs.isDirectory location then
      some (((fs.children location).mergeSort FileSystem.nameLE).filterMap fun
        | (name, .file content) =>
          if isName name then some ⟨Path.push directory name, content⟩ else none
        | _ => none)
    else none

/-- Why a file holds no specification. -/
inductive Defect where
  /-- Its bytes are no text. -/
  | unreadable
  /-- Its text is no specification. -/
  | malformed
deriving DecidableEq

/-- The specification in a file. -/
def read (f : SpecificationFile) : Except Defect Interface :=
  let symbols := Utf8.symbols f.content
  if symbols.contains .stray then .error .unreadable
  else match (Json.read symbols).bind decodeDocument with
    | some i => .ok i
    | none => .error .malformed

/-- The part of the program that loads specifications. -/
def logTarget : String := "halprobed::spec"

/-- The warning about a file that is passed over. -/
def warning (f : SpecificationFile) : Defect → LogRecord
  | .unreadable => ⟨.warn, logTarget, "skipping unreadable specification file",
      [("path", .text f.path), ("error", .text Complaint.system)]⟩
  | .malformed => ⟨.warn, logTarget, "skipping malformed specification file",
      [("path", .text f.path), ("error", .text Complaint.document)]⟩

end SpecificationFile

namespace Specification

/-- The first specification that a query admits, with the warnings on the way to it. -/
def search (q : ComponentQuery) : List SpecificationFile → Option Interface × List LogRecord
  | [] => (none, [])
  | f :: fs => match f.read with
    | .ok i => if q.admits i then (some i, []) else search q fs
    | .error defect =>
      let (found, log) := search q fs
      (found, f.warning defect :: log)

/-- The specification of what a query asks for, with the warnings on the way to it. -/
def find (fs : FileSystem) (all : String) (q : ComponentQuery) :
    Except LoadError Interface × List LogRecord :=
  let directory := q.directory all
  match SpecificationFile.ofDirectory? fs directory with
  | none => (.error (.specificationDirectory directory), [])
  | some files => match search q files with
    | (some i, log) => (.ok i, log)
    | (none, log) => (.error (.specificationNotFound directory q.display), log)

end Specification

end TargetBench
