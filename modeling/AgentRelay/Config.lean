import AgentRelay.Log
import AgentRelay.Text.Blank
import AgentRelay.Text.Unsigned

/-! Settings of the queue and of the connections, read from named variables. A variable that is
not set leaves the default in place, and so does one that is not a positive number. -/
namespace AgentRelay

/-- The times are in seconds. -/
structure Config where
  queueCapacity : Nat := 256
  connectTimeout : Nat := 10
  requestTimeout : Nat := 30
  keepAliveInterval : Nat := 30
  keepAliveTimeout : Nat := 20
deriving DecidableEq, Repr

namespace Config

/-- Settings fit a 64-bit word. -/
def largest : Nat := 0xFFFFFFFFFFFFFFFF

/-- One setting, and what is logged on the way: a text that is no number is, a zero is not. -/
def setting (values : String → Option String) (name : String) (default : Nat) :
    Nat × List Log.Entry :=
  match values name with
  | none => (default, [])
  | some raw =>
    match Text.unsigned? largest (Text.trimChars raw.toList) with
    | some n => (if 0 < n then n else default, [])
    | none =>
      (default, [⟨.warn, "invalid value, using default",
        [("variable", .text name), ("value", .text raw)]⟩])

def queueCapacityVariable : String := "HERON_AGENT_QUEUE_CAPACITY"
def connectTimeoutVariable : String := "HERON_AGENT_CONNECT_TIMEOUT_SECS"
def requestTimeoutVariable : String := "HERON_AGENT_REQUEST_TIMEOUT_SECS"
def keepAliveIntervalVariable : String := "HERON_AGENT_KEEPALIVE_INTERVAL_SECS"
def keepAliveTimeoutVariable : String := "HERON_AGENT_KEEPALIVE_TIMEOUT_SECS"

def read (values : String → Option String) : Config × List Log.Entry :=
  let standard : Config := {}
  let (queueCapacity, l₁) :=
    setting values queueCapacityVariable standard.queueCapacity
  let (connectTimeout, l₂) :=
    setting values connectTimeoutVariable standard.connectTimeout
  let (requestTimeout, l₃) :=
    setting values requestTimeoutVariable standard.requestTimeout
  let (keepAliveInterval, l₄) :=
    setting values keepAliveIntervalVariable standard.keepAliveInterval
  let (keepAliveTimeout, l₅) :=
    setting values keepAliveTimeoutVariable standard.keepAliveTimeout
  (⟨queueCapacity, connectTimeout, requestTimeout, keepAliveInterval, keepAliveTimeout⟩,
    l₁ ++ l₂ ++ l₃ ++ l₄ ++ l₅)

end Config

end AgentRelay
