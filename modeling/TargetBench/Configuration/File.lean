import TargetBench.Configuration.Basic
import TargetBench.FileSystem.Confined
import TargetBench.Json.Overlay
import TargetBench.Toml.Reader

/-!
# Settings in files

Where a settings file may be, and what it says. A file may name another one that it extends: what
the other file says counts where the first one says nothing. Each file has to be sound in the
revised edition of the format and is then read in the first one.

## Main definitions

* `SettingsFile.Candidate`: a place where a settings file may be
* `SettingsFile.candidates`: all such places, the first one first
* `SettingsFile.find`: what the first settings file says
-/

namespace TargetBench

/-- Why a configuration cannot be put together. -/
inductive ConfigurationError where
  /-- The command line makes no sense. -/
  | commandLine
  /-- A settings file is missing, cannot be read, or is not sound in the revised edition. -/
  | file
  /-- Settings files extend each other in a circle. -/
  | circle
  /-- The settings are no configuration. -/
  | merge
deriving DecidableEq

namespace SettingsFile

/-! ## Places -/

/-- A place where a settings file may be. -/
structure Candidate where
  path : String
  /-- Whether there has to be a file. -/
  required : Bool

/-- The name of a settings file in a directory of its own. -/
def fileName : String := "config.toml"

/-- The name of a settings file among other files. -/
def hiddenName : String := ".halprobe.toml"

/-- The places in a directory of settings. -/
def within (directory : String) : List String :=
  [Path.push (Path.push directory Surroundings.programName) fileName,
    Path.push directory hiddenName]

/-- The places in a user's own directory. -/
def withinHome (home : String) : List String :=
  within (Path.push home ".config") ++ [Path.push home hiddenName]

/-- The places that need not be named, apart from the first variable. Directories that are given
by an empty text are the working directory, except in a list of directories. -/
def usual (s : Surroundings) (working : Location) : List String :=
  (s.filled? "HALPROBE_CONFIG_PATH").toList
    ++ ((s.value? "XDG_CONFIG_HOME").map within).getD []
    ++ ((Text.pieces ':' ((s.value? "XDG_CONFIG_DIRS").getD "/etc/xdg")).filter
      (fun directory => !directory.isEmpty)).flatMap within
    ++ ((s.value? "HOME").map withinHome).getD []
    ++ [Path.push (Path.ofNames working) hiddenName]

/-- All places, each path once. A file that the command line names has to be there. -/
def candidates (s : Surroundings) (working : Location) (named : Option String) : List Candidate :=
  let required := named.toList
  (required.map (⟨·, true⟩)) ++
    (((usual s working).filter fun path => !required.contains path).eraseDups.map (⟨·, false⟩))

/-! ## Contents -/

/-- The file at a path, or none if there is nothing: the place that the path leads to, and what
the file holds. No link that the file's name stands for may leave the directory of that name. -/
def content? (fs : FileSystem) (path : String) :
    Except ConfigurationError (Option (Location × List UInt8)) :=
  match Path.parent? path, Path.fileName? path with
  | some parent, some name => match fs.resolve (if parent.isEmpty then "." else parent) with
    | .error .notFound => .ok none
    | .error _ => .error .file
    | .ok directory => match fs.resolveWithin directory name with
      | .error (.unreachable .notFound) => .ok none
      | .error _ => .error .file
      | .ok location => match fs.node? location, fs.resolve path with
        | some (.file bytes), .ok place => .ok (some (place, bytes))
        | _, _ => .error .file
  | _, _ => .error .file

/-- The text of bytes that are no stray bytes. -/
def text? (bytes : List UInt8) : Option String :=
  (Utf8.characters? bytes).map String.ofList

/-- The endings of the names of files in other formats. -/
def foreignEndings : List String := ["json", "json5", "yaml", "yml"]

/-- The ending of a file's name: what follows its last dot, if that is not its first character. -/
def nameEnding (name : String) : String :=
  match (Text.pieces '.' name).reverse with
  | last :: before => if before = [] ∨ before = [""] then "" else Mode.lowerCase last
  | [] => ""

/-- The settings that the bytes of a file at a place hold. -/
def settings (place : Location) (bytes : List UInt8) : Except ConfigurationError Json :=
  if foreignEndings.contains (nameEnding (place.getLast?.getD "")) then .error .file
  else match text? bytes with
    | none => .error .file
    | some text => match Toml.readText? .revised text with
      | none => .error .file
      | some doc =>
        if ¬ Toml.hasSoundMoments .revised doc then .error .file
        else match Toml.readText? .first text with
          | some doc => .ok doc
          | none => .error .merge

/-- The name of the member that names the file to extend. -/
def extensionName : String := "extends"

/-- What a member of settings says. -/
def member? (name : String) : Json → Option Json
  | .object members => members.lookup (some name)
  | _ => none

/-- The settings of the file at a path, laid over those of the file that it extends; none if there
is no file. The places of the files that extend this one are given, and the first argument bounds
their number. -/
def read (fs : FileSystem) : Nat → List Location → String → Except ConfigurationError (Option Json)
  | 0, _, _ => .error .circle
  | fuel + 1, visited, path => match content? fs path with
    | .error e => .error e
    | .ok none => .ok none
    | .ok (some (place, bytes)) =>
      if visited.contains place then .error .circle
      else match settings place bytes with
        | .error e => .error e
        | .ok upper => match member? extensionName upper with
          | none => .ok (some upper)
          | some (.text (some other)) =>
            if other.isEmpty then .error .file
            else match fs.resolve (Path.push (Path.ofNames place.dropLast) other) with
              | .error _ => .error .file
              | .ok base => match read fs fuel (place :: visited) (Path.ofNames base) with
                | .ok (some lower) => .ok (some (lower.overlay upper))
                | .ok none => .error .file
                | .error e => .error e
          | some _ => .error .file

/-- The settings of the file at a path. -/
def load (fs : FileSystem) (path : String) : Except ConfigurationError (Option Json) :=
  read fs (fs.nodes.length + 1) [] path

/-! ## Search -/

/-- What came of the search for a settings file. -/
structure Found where
  /-- What the file says, if there is one. -/
  settings : Option Json
  errors : List ConfigurationError

/-- Looks for the first settings file. A required file that is missing or unsound is an error in
any case, another unsound file only if no file is found. -/
def find (fs : FileSystem) : List Candidate → Found
  | [] => ⟨none, []⟩
  | c :: cs => match load fs c.path with
    | .ok (some doc) => ⟨some doc, []⟩
    | .ok none =>
      let rest := find fs cs
      if c.required then { rest with errors := .file :: rest.errors } else rest
    | .error e =>
      let rest := find fs cs
      if c.required || rest.settings.isNone then { rest with errors := e :: rest.errors } else rest

end SettingsFile

end TargetBench
