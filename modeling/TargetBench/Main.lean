import TargetBench.Daemon.Launch

/-!
# The program

The command line: settings come from flags, variables and a settings file, and one agent is served
on the standard streams. The program looks at the files that its settings and the agent's requests
name; a specification is looked for under the name of the interface that is asked for.
-/

namespace TargetBench.Program

/-- The variables that the program looks at. -/
def variableNames : List String :=
  (Configuration.fieldNames.map fun name =>
      Variable.mark ++ String.ofList (name.toList.map Char.toUpper))
    ++ ["HALPROBE_CONFIG_PATH", "XDG_CONFIG_HOME", "XDG_CONFIG_DIRS", "XDG_RUNTIME_DIR", "HOME",
      "TMPDIR"]

/-- What the program finds around it. -/
def surroundings : IO Surroundings := do
  let found ← variableNames.filterMapM fun name => return (← IO.getEnv name).map (name, ·)
  let user := ((← IO.getEnv "UID").bind fun s => Decimal.natural? s.toList).getD 0
  return ⟨found, user⟩

/-- The files known so far, and that of a path if it can be read. -/
def withFile (fs : FileSystem) (path : String) : IO FileSystem :=
  try
    return fs.place path (.file (← IO.FS.readBinFile path).toList)
  catch _ => return fs

/-- The files that a frame may need. -/
def filesOf (specDir : String) (frame : List UInt8) : List String :=
  match (decodeBytes frame : Option CommandRecord).map CommandRecord.command with
  | some (.load r) => r.path :: (match ComponentQuery.ofRequest r with
    | .ok q => q.name.toList.map fun name =>
        Path.push (q.directory specDir) (name ++ SpecificationFile.ending)
    | .error _ => [])
  | _ => []

/-- Serves the agent until the session ends. -/
partial def serve (c : Configuration) (fs : FileSystem) (s : Session (Builder Loopback)) :
    IO Unit := do
  let line ← (← IO.getStdin).getLine
  if line.isEmpty then return
  let frame := (Utf8.bytes line).filter (· != Frame.newline)
  let fs ← (filesOf c.specDir frame).foldlM withFile fs
  let settings : SessionSettings :=
    ⟨Host.firstNumber, fun _ => Signed.zero 32, c.slowCallMs.val.toNat * Dispatch.millisecond⟩
  let (next, response, _) := s.advance (Builder.service fs (Unsigned.zero 64)) settings true frame
  if let some r := response then IO.print (encodeText r ++ "\n")
  (← IO.getStdout).flush
  if next.ending.isNone then serve c fs next

/-- The file system before any file was looked at, which has the working directory only. -/
def noFiles (working : String) : FileSystem :=
  let names := (Path.pieces working).filter fun name => !name.isEmpty
  ((⟨[], names⟩ : FileSystem).makeDirectories FileSystem.usualMode working).1

end TargetBench.Program

open TargetBench in
def main (args : List String) : IO UInt32 := do
  let around ← Program.surroundings
  let named := (CommandLine.ofArguments? args).bind CommandLine.file
  let bare := Program.noFiles (toString (← IO.currentDir))
  let paths := (SettingsFile.candidates around bare.working named).map SettingsFile.Candidate.path
  let fs ← paths.foldlM Program.withFile bare
  let start := Bootstrap.run (Configuration.load around fs args) Bootstrap.hasSoundFilter fs
  match start.outcome with
  | .error e =>
    IO.eprintln ("halprobed: " ++ (LaunchError.bootstrap e).message)
    return 1
  | .ok c =>
    let channel := CallbackChannel.ofPath start.files c.callbackSocket
    Program.serve c start.files
      (Session.fresh (Builder.fresh ⟨c.specDir, c.serviceName, channel⟩ DriverRegistry.standard))
    return 0
