/-!
# Editions of the format

Settings files are written in a format that has two editions. The revised one has two more escapes,
lets inline tables run over several lines and end in a comma, and lets a time of day go without
seconds.

## Main definitions

* `Toml.Edition`: the editions
* `Toml.Edition.nestingLimit`, `Toml.Edition.namesLimit`: how deep a file of an edition may go
-/

namespace TargetBench.Toml

/-- An edition of the format. -/
inductive Edition where
  | first
  | revised
deriving DecidableEq

namespace Edition

/-- How deep brackets may nest. -/
def nestingLimit : Edition → Nat
  | first => 79
  | revised => 80

/-- How many names a key may have. -/
def namesLimit : Edition → Nat
  | first => 79
  | revised => 80

end Edition

end TargetBench.Toml
