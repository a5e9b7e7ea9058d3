import TargetBench.Configuration.Basic

/-!
# Flags

The settings that a command line gives. Each flag has a long form, most have a short one, and each
takes a value: the next argument, or what follows an equals sign; a value may also follow a short
flag directly. A flag may be given once.

## Main definitions

* `Flag`: the flags
* `Flag.scan`: the flags of a command line with their values
* `Flag.settings?`: the members that flags give a configuration
-/

namespace TargetBench

/-- The flags of the command line. -/
inductive Flag where
  | daemonSocket
  | logFilter
  | logFormat
  | specDir
  | isolation
  | callbackSocket
  | serviceName
  | slowCallMs
  /-- The settings file. -/
  | configPath
deriving DecidableEq

namespace Flag

/-- The long forms of all flags. -/
def longForms : List (String × Flag) :=
  [("daemon-socket", daemonSocket), ("log-filter", logFilter), ("log-format", logFormat),
    ("spec-dir", specDir), ("isolation", isolation), ("callback-socket", callbackSocket),
    ("service-name", serviceName), ("slow-call-ms", slowCallMs), ("config-path", configPath)]

/-- The short forms of flags. -/
def shortForms : List (Char × Flag) :=
  [('d', daemonSocket), ('l', logFilter), ('L', logFormat), ('s', specDir), ('i', isolation),
    ('c', callbackSocket), ('S', serviceName), ('o', slowCallMs)]

/-! ## Arguments -/

/-- An argument on its own. -/
inductive Argument where
  /-- Flags end here. -/
  | stop
  /-- A flag, and its value if the argument holds it too. -/
  | flag (f : Flag) (value : Option String)
  /-- Something that no flag asks for. -/
  | unknown

/-- What an argument is on its own. -/
def Argument.ofText (s : String) : Argument :=
  match s.toList with
  | ['-', '-'] => .stop
  | '-' :: '-' :: cs =>
    let name := String.ofList (cs.takeWhile (· ≠ '='))
    match longForms.lookup name, cs.dropWhile (· ≠ '=') with
    | some f, _ :: value => .flag f (some (String.ofList value))
    | some f, [] => .flag f none
    | none, _ => .unknown
  | '-' :: c :: cs =>
    match shortForms.lookup c, cs with
    | some f, [] => .flag f none
    | some f, '=' :: value => .flag f (some (String.ofList value))
    | some f, value => .flag f (some (String.ofList value))
    | none, _ => .unknown
  | _ => .unknown

/-- Whether an argument can be the value of the flag before it. A lone dash can. -/
def isValue (s : String) : Bool := s = "-" || s.toList.head? ≠ some '-'

/-- The flags of a command line with their values. Nothing can follow the end of flags. -/
def scan : List String → Option (List (Flag × String))
  | [] => some []
  | arg :: args => match Argument.ofText arg with
    | .unknown => none
    | .stop => if args.isEmpty then some [] else none
    | .flag f (some value) => (scan args).map ((f, value) :: ·)
    | .flag f none => match args with
      | value :: args => if isValue value then (scan args).map ((f, value) :: ·) else none
      | [] => none

/-! ## Values -/

/-- The member that a flag gives a configuration, if its value makes sense. The settings file is no
member but has to be named. -/
def setting? : Flag → String → Option (List (String × Json))
  | daemonSocket, s =>
    (SocketEndpoint.parse s).toOption.map fun e => [("daemon_socket", Wire.toJson e)]
  | logFilter, s => some [("log_filter", .ofText s)]
  | logFormat, s =>
    (Mode.parse? s : Option LogFormat).map fun m => [("log_format", Wire.toJson m)]
  | specDir, s => some [("spec_dir", .ofText s)]
  | isolation, s =>
    (Mode.parse? s : Option Isolation).map fun m => [("isolation", Wire.toJson m)]
  | callbackSocket, s => some [("callback_socket", .ofText s)]
  | serviceName, s => some [("service_name", .ofText s)]
  | slowCallMs, s => (Decimal.positive? s.toList).bind fun n =>
      (Bounded.ofInt? n : Option (Unsigned 64)).map fun n => [("slow_call_ms", .ofInt n.val)]
  | configPath, s => if s.isEmpty then none else some []

/-- The members that flags give a configuration. -/
def settings? (given : List (Flag × String)) : Option (List (String × Json)) :=
  if (given.map (·.1)).Nodup then
    (given.mapM fun (f, value) => setting? f value).map List.flatten
  else none

end Flag

/-- What a command line says. -/
structure CommandLine where
  /-- The members that it gives a configuration. -/
  settings : List (String × Json)
  /-- The settings file that it names. -/
  file : Option String

/-- What the arguments of a program say, if they make sense. -/
def CommandLine.ofArguments? (args : List String) : Option CommandLine := do
  let given ← Flag.scan args
  let settings ← Flag.settings? given
  return ⟨settings, given.lookup .configPath⟩

end TargetBench
