import TargetBench.FileSystem.Basic

/-!
# Directories

## Main definitions

* `FileSystem.makeDirectory`: a new directory
* `FileSystem.makeDirectories`: a new directory with the directories on the way to it
* `FileSystem.place`: a node at a path
* `FileSystem.listing`: the nodes below a location, in order
-/

namespace TargetBench

/-- Why a directory cannot be made. -/
inductive DirectoryError where
  /-- Something stands there already. -/
  | occupied
  /-- The path leads nowhere. -/
  | unreachable (source : PathError)
deriving DecidableEq

namespace FileSystem

/-- Makes a directory. -/
def makeDirectory (fs : FileSystem) (mode : Nat) (path : String) :
    Except DirectoryError FileSystem :=
  match fs.ending path with
  | .error e => .error (.unreachable e)
  | .ok (.place _) => .error .occupied
  | .ok (.name directory name _) =>
    match fs.node? (directory ++ [name]) with
    | some _ => .error .occupied
    | none => .ok (fs.insert (directory ++ [name]) (.directory mode))

/-- Makes the directory of the first path; if the way to it is missing, first those of the paths
after it. A directory that is there already is taken as it is. The file system is the one that is
left, also after an error. -/
def makeChain (fs : FileSystem) (mode : Nat) :
    List String → FileSystem × Except DirectoryError Unit
  | [] => (fs, .ok ())
  | path :: way =>
    match fs.makeDirectory mode path with
    | .ok fs => (fs, .ok ())
    | .error (.unreachable .notFound) =>
      match fs.makeChain mode way with
      | (fs, .error e) => (fs, .error e)
      | (fs, .ok ()) => match fs.makeDirectory mode path with
        | .ok fs => (fs, .ok ())
        | .error e => (fs, if fs.leadsToDirectory path then .ok () else .error e)
    | .error e => (fs, if fs.leadsToDirectory path then .ok () else .error e)

/-- Makes a directory with the directories on the way to it. -/
def makeDirectories (fs : FileSystem) (mode : Nat) (path : String) :
    FileSystem × Except DirectoryError Unit :=
  fs.makeChain mode (Path.ancestors (path.length + 1) path)

/-- The permissions of directories that nothing else is said about. -/
def usualMode : Nat := 0o755

/-- Puts a node at a path, with the directories on the way to it. A path that names no place in a
directory changes nothing. -/
def place (fs : FileSystem) (path : String) (node : Node) : FileSystem :=
  let fs := match Path.parent? path with
    | some directory => (fs.makeDirectories usualMode directory).1
    | none => fs
  match fs.ending path with
  | .ok (.name directory name _) => fs.insert (directory ++ [name]) node
  | _ => fs

/-- Whether a name stands before another one, or is the same, in the order of the numbers of
characters. -/
def nameLE (a b : String × Node) : Bool :=
  !b.1.toList.lex a.1.toList fun c d => Nat.blt c.toNat d.toNat

/-- The locations below a location with their nodes, each directory before what it holds and names
in order. The first argument bounds the depth. -/
def listingTo (fs : FileSystem) : Nat → Location → List (Location × Node)
  | 0, _ => []
  | depth + 1, location =>
    ((fs.children location).mergeSort nameLE).flatMap fun (name, node) =>
      (location ++ [name], node) :: fs.listingTo depth (location ++ [name])

/-- The locations below a location with their nodes, each directory before what it holds and names
in order. -/
def listing (fs : FileSystem) (location : Location) : List (Location × Node) :=
  fs.listingTo ((fs.nodes.map fun e => e.1.length).foldl max 0) location

end FileSystem

end TargetBench
