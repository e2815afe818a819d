/-!
How the log is set up: where records go, and which records are let through.
-/

namespace CatalogScout

inductive LogThreshold where
  | unset
  | debug
  | warning
deriving DecidableEq, Repr

def LogThreshold.name : LogThreshold → String
  | .unset => "NOTSET"
  | .debug => "DEBUG"
  | .warning => "WARNING"

structure Logging where
  handlers : List String
  root : LogThreshold
  /-- The thresholds of loggers with much to say. -/
  loggers : List (String × LogThreshold)
deriving DecidableEq, Repr

namespace Logging

def noisyLoggers : List String := ["databricks.sdk", "urllib3"]

/-- Before anything was set up. -/
def initial : Logging := ⟨[], .warning, noisyLoggers.map fun name => (name, .unset)⟩

/-- Everything goes to the console.  Whatever was set up before is gone. -/
def setUp (verbose : Bool) (_ : Logging) : Logging where
  handlers := ["RichHandler"]
  root := if verbose then .debug else .warning
  loggers := noisyLoggers.map fun name => (name, .warning)

end Logging
end CatalogScout
