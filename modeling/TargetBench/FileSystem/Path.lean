import TargetBench.Text.Cut
import TargetBench.Text.Utf8

/-!
# Paths

Paths as texts whose parts are separated by slashes.

## Main definitions

* `Path.pieces`: the parts of a path between its slashes
* `Path.push`: a path continued by another one
* `Path.parent?`: a path without its last component
* `Path.fileName?`: the last component of a path, if it is a name
* `Path.ofNames`: the absolute path of names
-/

namespace TargetBench.Path

/-- The parts of a path between its slashes. An absolute path has an empty first part. -/
def pieces (path : String) : List String := Text.pieces '/' path

/-- Whether a path starts at the root. -/
def isAbsolute (path : String) : Bool := path.toList.head? == some '/'

/-- How many bytes a text has. -/
def byteCount (s : String) : Nat := (Utf8.bytes s).length

/-- A path continued by another one. An absolute one takes the place of the path; otherwise a
slash is put between the two unless the path is empty or ends in a slash. -/
def push (path addition : String) : String :=
  if isAbsolute addition then addition
  else if path.isEmpty || path.toList.getLast? == some '/' then path ++ addition
  else path ++ "/" ++ addition

/-- Whether a part counts for nothing at the end of a path. -/
def isIdle (piece : String) : Bool := piece.isEmpty || piece = "."

/-- Parts without the idle ones at their end; the last part stands first. A lone dot at the start
of a relative path is a component. -/
def dropIdle (rooted : Bool) : List String → List String
  | [] => []
  | piece :: before =>
    if piece = "." ∧ before = [] ∧ rooted = false then [piece]
    else if isIdle piece then dropIdle rooted before
    else piece :: before

/-- A path without its last component; a path without components has none. -/
def parent? (path : String) : Option String :=
  let rooted := isAbsolute path
  let body := if rooted then (pieces path).drop 1 else pieces path
  match dropIdle rooted body.reverse with
  | [] => none
  | _ :: before =>
    let kept := "/".intercalate (dropIdle rooted before).reverse
    some (if rooted then "/" ++ kept else kept)

/-- The last component of a path, if it is the name of something in a directory. -/
def fileName? (path : String) : Option String :=
  let rooted := isAbsolute path
  let body := if rooted then (pieces path).drop 1 else pieces path
  (dropIdle rooted body.reverse).head?.filter fun name => name ≠ "." && name ≠ ".."

/-- The absolute path of names that lead from the root to a place. -/
def ofNames (names : List String) : String := "/" ++ "/".intercalate names

/-- A path and the paths that its components are reached through, the path itself first. The empty
path and the root are left out. The first argument bounds the number of components. -/
def ancestors : Nat → String → List String
  | 0, _ => []
  | fuel + 1, path =>
    if path.isEmpty then []
    else match parent? path with
      | none => []
      | some parent => path :: ancestors fuel parent

end TargetBench.Path
