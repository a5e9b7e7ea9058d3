import TargetBench.Configuration.File
import TargetBench.Configuration.Flag
import TargetBench.Configuration.Variable

/-!
# Layers of settings

A configuration is put together from layers: defaults, a settings file, variables, and flags. Each
layer is a document, and each is laid over those before it.

## Main definitions

* `Configuration.merge`: the document of several layers
* `Configuration.load`: the configuration of a program that is started
-/

namespace TargetBench.Configuration

/-- The document of several layers, the lowest one first. -/
def merge (layers : List Json) : Json := layers.foldl Json.overlay (.object [])

/-- The configuration of several layers. -/
def ofLayers? (standard : Configuration) (layers : List Json) : Option Configuration :=
  decode standard nestingLimit (merge layers)

/-- The configuration of a program that is started with arguments in its surroundings, or all
reasons why there is none. -/
def load (s : Surroundings) (fs : FileSystem) (args : List String) :
    Except (List ConfigurationError) Configuration :=
  let line := CommandLine.ofArguments? args
  let found := SettingsFile.find fs
    (SettingsFile.candidates s fs.working (line.bind CommandLine.file))
  let standard := ofSurroundings s
  let layers :=
    [standard.toJson, found.settings.getD (.object []), Variable.settings s.entries,
      .record ((line.map CommandLine.settings).getD [])]
  let errors := (if line.isNone then [ConfigurationError.commandLine] else []) ++ found.errors
  match ofLayers? standard layers with
  | none => .error (errors ++ [.merge])
  | some c => if errors.isEmpty then .ok c else .error errors

end TargetBench.Configuration
