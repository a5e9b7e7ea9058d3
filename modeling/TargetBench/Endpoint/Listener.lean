import TargetBench.Endpoint.Basic
import TargetBench.FileSystem.Basic

/-!
# Listening at endpoints

A daemon listens at a socket of its own. A socket that nobody serves any more gives way to it;
anything else at the path stays as it is.

## Main definitions

* `SocketEndpoint.listen`: makes and serves the socket of an endpoint
* `SocketEndpoint.release`: removes the socket of an endpoint
-/

namespace TargetBench

/-- Why nobody can listen at a path. -/
inductive ListenerError where
  /-- The socket cannot be made. -/
  | bind (path : String)
  /-- The path cannot be the address of a socket. -/
  | invalidPath (path : String)
  /-- Somebody serves the socket that is there. -/
  | inUse (path : String)
  /-- What is there is no socket. -/
  | notSocket (path : String)
  /-- It cannot be told whether somebody serves the socket that is there. -/
  | connect (path : String)
deriving DecidableEq

/-- The text of an error. -/
def ListenerError.message : ListenerError → String
  | bind path => "failed to bind unix listener at " ++ path ++ ": " ++ Complaint.system
  | invalidPath path =>
    "failed to bind unix listener at " ++ path ++ ": paths must not contain interior null bytes"
  | inUse path => "existing unix socket " ++ path ++ " is already in use"
  | notSocket path => "unix socket path " ++ path ++ " is not a socket"
  | connect path => "failed to connect to existing unix socket " ++ path ++ ": " ++ Complaint.system

/-- What a report calls an error. -/
def ListenerError.label : ListenerError → String
  | bind _ => "BindUnix"
  | invalidPath _ => "BindUnix"
  | inUse _ => "UnixInUse"
  | notSocket _ => "UnixNotSocket"
  | connect _ => "UnixConnect"

instance : Reported ListenerError := ⟨ListenerError.label, ListenerError.message⟩

namespace SocketEndpoint

/-- How many bytes the address of a socket may have. -/
def addressLimit : Nat := 107

/-- Whether a path is short enough for the address of a socket. -/
def isAddress (path : String) : Bool := Path.byteCount path ≤ addressLimit

/-- The file system without the socket at a path that nobody serves, if there is one. -/
def clear (path : String) (fs : FileSystem) : Except ListenerError FileSystem :=
  if ¬ fs.pathExists path then .ok fs
  else match fs.entry path with
    | .error _ => .ok fs
    | .ok location => match fs.node? location with
      | some (.socket served) =>
        if ¬ isAddress path then .error (.connect path)
        else if served then .error (.inUse path)
        else .ok (fs.remove location)
      | _ => .error (.notSocket path)

/-- The file system with a new socket at a path where nothing is. The empty path stands for a
socket that has no place in the file system. -/
def create (path : String) (fs : FileSystem) : Except ListenerError FileSystem :=
  if path.isEmpty then .ok fs
  else if path.toList.contains '\x00' then .error (.invalidPath path)
  else if ¬ isAddress path then .error (.bind path)
  else match fs.ending path with
    | .ok (.name directory name false) =>
      if (fs.node? (directory ++ [name])).isSome then .error (.bind path)
      else .ok (fs.insert (directory ++ [name]) (.socket true))
    | _ => .error (.bind path)

/-- Makes the socket of an endpoint and serves it. The file system is the one that is left, also
after an error. -/
def listen (e : SocketEndpoint) (fs : FileSystem) : FileSystem × Except ListenerError Unit :=
  match clear e.path fs with
  | .error error => (fs, .error error)
  | .ok cleared => match create e.path cleared with
    | .error error => (cleared, .error error)
    | .ok bound => (bound, .ok ())

/-- The file system with the socket of an endpoint, served. -/
def bind (e : SocketEndpoint) (fs : FileSystem) : Except ListenerError FileSystem :=
  (e.listen fs).2.map fun _ => (e.listen fs).1

/-- Removes the socket of an endpoint. -/
def release (e : SocketEndpoint) (fs : FileSystem) : FileSystem :=
  match fs.entry e.path with
  | .ok location => if fs.isDirectory location then fs else fs.remove location
  | .error _ => fs

end SocketEndpoint

end TargetBench
