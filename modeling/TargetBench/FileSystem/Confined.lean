import TargetBench.FileSystem.Basic

/-!
# Names confined to a directory

What a name in a directory leads to if no link on the way may leave the directory. A step above the
directory and a link to an absolute path leave it, even if they come back.

## Main definitions

* `FileSystem.walkWithin`: the location that parts of a path lead to inside a directory

## Main results

* `FileSystem.prefix_of_walkWithin`: the location lies in the directory
-/

namespace TargetBench

/-- Why a name in a directory leads to no place in it. -/
inductive ConfinementError where
  | unreachable (source : PathError)
  /-- A link leads out of the directory. -/
  | escape
deriving DecidableEq

namespace FileSystem

/-- Follows parts of a path from the place `below` a directory, at most `links` links on the way,
none of which may leave the directory. -/
def walkWithin (fs : FileSystem) (links : Nat) (home below : Location) (pieces : List String) :
    Except ConfinementError Location :=
  match pieces with
  | [] => .ok (home ++ below)
  | piece :: rest =>
    if ¬ fs.isDirectory (home ++ below) then .error (.unreachable .notDirectory)
    else if Path.isIdle piece then walkWithin fs links home below rest
    else if piece = ".." then
      if below = [] then .error .escape else walkWithin fs links home below.dropLast rest
    else if nameLimit < Path.byteCount piece then .error (.unreachable .nameTooLong)
    else match fs.node? (home ++ below ++ [piece]) with
      | none => .error (.unreachable .notFound)
      | some (.link target) => match links with
        | 0 => .error (.unreachable .tooManyLinks)
        | links + 1 =>
          if target.isEmpty then .error (.unreachable .notFound)
          else if Path.isAbsolute target then .error .escape
          else walkWithin fs links home below (Path.pieces target ++ rest)
      | some _ => walkWithin fs links home (below ++ [piece]) rest
termination_by (links, pieces.length)

/-- The location that a confined walk reaches lies in the directory. -/
theorem prefix_of_walkWithin {fs : FileSystem} {links : Nat} {home below location : Location}
    {pieces : List String} (h : fs.walkWithin links home below pieces = .ok location) :
    home <+: location := by
  fun_induction walkWithin fs links home below pieces <;> simp_all
  rw [← h]
  exact List.prefix_append _ _

/-- The location that a name in a directory leads to without leaving it. -/
def resolveWithin (fs : FileSystem) (directory : Location) (name : String) :
    Except ConfinementError Location :=
  fs.walkWithin linkLimit directory [] [name]

end FileSystem

end TargetBench
