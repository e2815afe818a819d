/-!
Records of what the library does, for whoever follows its log.
-/

namespace CatalogScout

inductive LogLevel where
  | debug
  | error
deriving DecidableEq, Repr

structure LogRecord where
  level : LogLevel
  text : String
deriving DecidableEq, Repr

def LogLevel.name : LogLevel → String
  | .debug => "DEBUG"
  | .error => "ERROR"

def LogRecord.debug (text : String) : LogRecord := ⟨.debug, text⟩

def LogRecord.error (text : String) : LogRecord := ⟨.error, text⟩

end CatalogScout
