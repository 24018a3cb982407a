/-! What is written to the log: a level, a message and named fields. -/
namespace AgentRelay.Log

inductive Level where
  | debug
  | info
  | warn
  | error
deriving DecidableEq, Repr

inductive Field where
  | text (s : String)
  | int (n : Int)
  | bool (b : Bool)
deriving DecidableEq, Repr

structure Entry where
  level : Level
  message : String
  fields : List (String × Field) := []
deriving DecidableEq, Repr

def Level.name : Level → String
  | .debug => "debug"
  | .info => "info"
  | .warn => "warn"
  | .error => "error"

end AgentRelay.Log
