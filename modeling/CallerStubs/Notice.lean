/-
  Caller stubs — log records.

  * `Level`, `Notice`: a record of the log and how serious it is.
-/
namespace CallerStubs

/-- How serious a record is. -/
inductive Level where
  | debug
  | info
  | warn
  deriving DecidableEq, Repr

def Level.name : Level → String
  | debug => "debug"
  | info => "info"
  | warn => "warn"

/-- A record of the log. -/
structure Notice where
  level : Level
  text : String
  deriving DecidableEq, Repr

end CallerStubs
