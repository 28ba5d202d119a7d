/-!
# Log records
-/

namespace Forwarding

/-- How much a record matters. -/
inductive Level where
  | debug
  | info
  | warn
  | error
  deriving DecidableEq, Repr

/-- The name of a level. -/
def Level.name : Level → String
  | .debug => "DEBUG"
  | .info => "INFO"
  | .warn => "WARN"
  | .error => "ERROR"

/-- One line of the log. -/
structure Record where
  level : Level
  text : String
  deriving DecidableEq, Repr

/-- A record for those who look into the tool. -/
def Record.debug (text : String) : Record := ⟨.debug, text⟩

/-- The record as a line. -/
def Record.line (record : Record) : String := record.level.name ++ " " ++ record.text

end Forwarding
