import TargetBench.FileSystem.Path

/-!
# File systems

A file system as a set of nodes at locations. A location is the list of names that lead to it from
the root, so it goes through directories only; links are followed when a path is resolved.

A program may do everything in a file system and never runs out of space: the permissions of
directories are recorded, but nothing is refused for the want of a permission or of space. So each
file that is there is read, and a specification file is unreadable only if its bytes are no text in
UTF-8.

## Main definitions

* `Node`: directories, files, sockets and links
* `FileSystem`: nodes at locations, and the working directory
* `FileSystem.resolve`: the location that a path leads to, links followed
* `FileSystem.entry`: the location that a path names, a link at its end not followed
-/

namespace TargetBench

/-- The names that lead from the root to a place. -/
abbrev Location := List String

/-- What stands at a place of a file system. -/
inductive Node where
  /-- A directory with the permissions of `mode`. -/
  | directory (mode : Nat)
  | file (content : List UInt8)
  /-- A socket, and whether somebody serves it. -/
  | socket (served : Bool)
  /-- A link to the place that a path leads to. -/
  | link (target : String)
deriving DecidableEq

/-- Why a path leads to no place. -/
inductive PathError where
  | notFound
  | notDirectory
  | tooManyLinks
  | nameTooLong
  /-- The path holds a character that no path can hold. -/
  | invalid
deriving DecidableEq

/-- Nodes at locations. The root is a directory even if no node is listed for it. -/
structure FileSystem where
  nodes : List (Location × Node)
  /-- Where relative paths start. -/
  working : Location

namespace FileSystem

/-- The permissions of the root. -/
def rootMode : Nat := 0o755

/-- The node at a location. -/
def node? (fs : FileSystem) (location : Location) : Option Node :=
  match fs.nodes.lookup location with
  | some node => some node
  | none => if location = [] then some (.directory rootMode) else none

/-- Whether a directory stands at a location. -/
def isDirectory (fs : FileSystem) (location : Location) : Bool :=
  match fs.node? location with
  | some (.directory _) => true
  | _ => false

/-- Puts a node at a location, in place of the one there. -/
def insert (fs : FileSystem) (location : Location) (node : Node) : FileSystem :=
  { fs with nodes := (location, node) :: fs.nodes.filter fun e => e.1 ≠ location }

/-- Removes the node at a location. -/
def remove (fs : FileSystem) (location : Location) : FileSystem :=
  { fs with nodes := fs.nodes.filter fun e => e.1 ≠ location }

/-- The names and nodes in a directory. -/
def children (fs : FileSystem) (location : Location) : List (String × Node) :=
  fs.nodes.filterMap fun (place, node) => match place.reverse with
    | name :: before => if before.reverse = location then some (name, node) else none
    | [] => none

/-- How many links are followed on the way along a path. -/
def linkLimit : Nat := 40

/-- How many bytes a name may have. -/
def nameLimit : Nat := 255

/-- How many bytes a path may have. -/
def pathLimit : Nat := 4095

/-- Where a path starts. -/
def start (fs : FileSystem) (path : String) : Location :=
  if Path.isAbsolute path then [] else fs.working

/-- Follows parts of a path from a location, at most `links` links on the way. -/
def walk (fs : FileSystem) (links : Nat) (here : Location) (pieces : List String) :
    Except PathError Location :=
  match pieces with
  | [] => .ok here
  | piece :: rest =>
    if ¬ fs.isDirectory here then .error .notDirectory
    else if Path.isIdle piece then walk fs links here rest
    else if piece = ".." then walk fs links here.dropLast rest
    else if nameLimit < Path.byteCount piece then .error .nameTooLong
    else match fs.node? (here ++ [piece]) with
      | none => .error .notFound
      | some (.link target) => match links with
        | 0 => .error .tooManyLinks
        | links + 1 =>
          if target.isEmpty then .error .notFound
          else walk fs links (if Path.isAbsolute target then [] else here)
            (Path.pieces target ++ rest)
      | some _ => walk fs links (here ++ [piece]) rest
termination_by (links, pieces.length)

/-- Whether a text can be a path at all. -/
def checkText (path : String) : Except PathError Unit :=
  if path.toList.contains '\x00' then .error .invalid
  else if path.isEmpty then .error .notFound
  else if pathLimit < Path.byteCount path then .error .nameTooLong
  else .ok ()

/-- The location that a path leads to, links followed. -/
def resolve (fs : FileSystem) (path : String) : Except PathError Location := do
  checkText path
  fs.walk linkLimit (fs.start path) (Path.pieces path)

/-- Whether a path leads to a node, links followed. -/
def pathExists (fs : FileSystem) (path : String) : Bool := (fs.resolve path).isOk

/-- Whether a path leads to a directory, links followed. -/
def leadsToDirectory (fs : FileSystem) (path : String) : Bool :=
  match fs.resolve path with
  | .ok location => fs.isDirectory location
  | .error _ => false

/-- What the end of a path names. -/
inductive Ending where
  /-- A name in a directory, whether something stands there or not; `slash` tells whether a slash
  follows the name. -/
  | name (directory : Location) (name : String) (slash : Bool)
  /-- A place that is there already, such as the root or a directory's parent. -/
  | place (location : Location)

/-- Parts without the empty ones at their end; the last part stands first. -/
def dropEmpty (backwards : List String) : List String := backwards.dropWhile fun p => p.isEmpty

/-- What the end of a path names, the way to it followed. -/
def ending (fs : FileSystem) (path : String) : Except PathError Ending := do
  checkText path
  let backwards := (Path.pieces path).reverse
  match dropEmpty backwards with
  | [] => .ok (.place [])
  | last :: before =>
    let directory ← fs.walk linkLimit (fs.start path) before.reverse
    if ¬ fs.isDirectory directory then .error .notDirectory
    else if last = "." then .ok (.place directory)
    else if last = ".." then .ok (.place directory.dropLast)
    else if nameLimit < Path.byteCount last then .error .nameTooLong
    else .ok (.name directory last (decide (dropEmpty backwards ≠ backwards)))

/-- The location of the node that a path names, a link at its end not followed. -/
def entry (fs : FileSystem) (path : String) : Except PathError Location := do
  match ← fs.ending path with
  | .place location => .ok location
  | .name directory name slash =>
    if slash then fs.resolve path
    else match fs.node? (directory ++ [name]) with
      | some _ => .ok (directory ++ [name])
      | none => .error .notFound

end FileSystem

end TargetBench
