import TargetBench.Endpoint.Basic
import TargetBench.FileSystem.Directory

/-!
# Preparing endpoints

The directory of an endpoint's socket is made before the socket is, open to its owner only.

## Main definitions

* `SocketEndpoint.prepare`: makes the directory of an endpoint
-/

namespace TargetBench

/-- Why an endpoint cannot be prepared. -/
inductive PreparationError where
  /-- The path has no component that could be left out. -/
  | missingParent (path : String)
  /-- The directory cannot be made. -/
  | createDirectory (directory : String) (source : PathError)
deriving DecidableEq

/-- A complaint about the name of a directory. -/
def PathError.directoryComplaint : PathError → String
  | invalid => "file name contained an unexpected NUL byte"
  | _ => Complaint.system

/-- The text of an error. -/
def PreparationError.message : PreparationError → String
  | missingParent path => "socket path '" ++ path ++ "' has no parent directory"
  | createDirectory directory source =>
    "failed to create socket directory '" ++ directory ++ "': " ++ source.directoryComplaint

/-- What a report calls an error. -/
def PreparationError.label : PreparationError → String
  | missingParent _ => "MissingParent"
  | createDirectory .. => "CreateDirectory"

instance : Reported PreparationError := ⟨PreparationError.label, PreparationError.message⟩

namespace SocketEndpoint

/-- The permissions of directories that are made for a socket. -/
def directoryMode : Nat := 0o700

/-- Makes the directory of an endpoint's socket, with the directories on the way to it. A place
that something occupies already counts as made. -/
def prepare (e : SocketEndpoint) (fs : FileSystem) :
    FileSystem × Except PreparationError Unit :=
  match Path.parent? e.path with
  | none => (fs, .error (.missingParent e.path))
  | some directory =>
    if directory.isEmpty then (fs, .ok ())
    else match fs.makeDirectories directoryMode directory with
      | (fs, .error (.unreachable source)) => (fs, .error (.createDirectory directory source))
      | (fs, _) => (fs, .ok ())

end SocketEndpoint

end TargetBench
