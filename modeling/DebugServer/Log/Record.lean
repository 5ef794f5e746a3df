/-!
# Log records

What the library has to say about its own work. A record names the part that speaks, says one
thing, and carries named fields.
-/

namespace DebugServer.Log

inductive Level where
  | error
  | warn
  | info
  | debug
  | trace
deriving DecidableEq, Repr, Inhabited

def Level.name : Level → String
  | .error => "error"
  | .warn => "warn"
  | .info => "info"
  | .debug => "debug"
  | .trace => "trace"

def Level.label : Level → String
  | .error => "ERROR"
  | .warn => "WARN"
  | .info => "INFO"
  | .debug => "DEBUG"
  | .trace => "TRACE"

def Level.rank : Level → Nat
  | .error => 1
  | .warn => 2
  | .info => 3
  | .debug => 4
  | .trace => 5

inductive FieldValue where
  | number (value : Int)
  /-- A text that is quoted where records are shown as text. -/
  | text (value : String)
  /-- A text that is shown as it is. -/
  | plain (value : String)
deriving DecidableEq, Repr, Inhabited

structure Record where
  level : Level
  target : String
  message : String
  fields : List (String × FieldValue)
deriving DecidableEq, Repr, Inhabited

def sessionTarget : String := "interp.dap"

def crashTarget : String := "interp.panic"

def configTarget : String := "interp.config"

def session (level : Level) (message : String) (fields : List (String × FieldValue)) : Record :=
  ⟨level, sessionTarget, message, fields⟩

end DebugServer.Log
