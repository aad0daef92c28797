/-!
# Levels of log records
-/

namespace SeriesCatalog

/-- The weight of a log record. -/
inductive Level
  | error
  | warn
  | info
  | debug
  | trace
deriving DecidableEq, Repr

/-- The name of a level in a log. -/
def Level.name : Level → String
  | .error => "ERROR"
  | .warn => "WARN"
  | .info => "INFO"
  | .debug => "DEBUG"
  | .trace => "TRACE"

/-- How much a level lets through. -/
def Level.rank : Level → Nat
  | .error => 1
  | .warn => 2
  | .info => 3
  | .debug => 4
  | .trace => 5

structure LogRecord where
  level : Level
  /-- The part of the program that it comes from. -/
  target : String
  text : String
deriving DecidableEq, Repr

def auditTarget : String := "seriesquery::audit"

end SeriesCatalog
