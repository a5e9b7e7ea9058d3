import TargetBench.Number.Decimal

/-!
# Log records

## Main definitions

* `LogRecord`: one record of the log
-/

namespace TargetBench

/-- How important a record is. -/
inductive LogLevel where
  | info
  | warn
  | error
deriving DecidableEq

/-- The name of a level. -/
def LogLevel.name : LogLevel → String
  | info => "INFO"
  | warn => "WARN"
  | error => "ERROR"

/-- The content of a field. -/
inductive LogField where
  | text (s : String)
  | number (n : Int)
deriving DecidableEq

/-- One record of the log. -/
structure LogRecord where
  level : LogLevel
  /-- The part of the program that the record is about. -/
  target : String
  message : String
  fields : List (String × LogField)
deriving DecidableEq

end TargetBench
