/-!
# Log records

What a run reports about its progress. Records are values: a function that reports something
returns its records, or hands them to the platform it runs on.
-/

namespace WasmBindings

/-- How much a record matters. -/
inductive LogLevel where
  | debug
  | info
  | warn
  deriving DecidableEq, Repr

/-- The word for a level. -/
def LogLevel.label : LogLevel → String
  | .debug => "DEBUG"
  | .info => "INFO"
  | .warn => "WARN"

/-- One line of the log. -/
structure LogRecord where
  level : LogLevel
  text : String
  deriving DecidableEq, Repr

/-- The log of a run, first record first. -/
abbrev Log := List LogRecord

end WasmBindings
