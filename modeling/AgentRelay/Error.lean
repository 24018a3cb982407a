import AgentRelay.App
import AgentRelay.Credentials.Fault
import AgentRelay.ErrorChain
import AgentRelay.Rpc.Status

/-! Why an operation on an agent failed. -/
namespace AgentRelay

inductive Error where
  | credentials (address : String) (source : Credentials.Fault)
  | invalidAddress (address message : String)
  | transport (address : String) (status : Rpc.Status)
  | reconnectFailed (address : String) (source : Error)
  | unreachable (address operation : String) (source : Error)
  | stillUnreachable (address operation : String)
  | backendStillFailing (address operation backend : String)
  | status (endpoint message : String)
  | decode (endpoint message : String)
  | unexpectedResponse (expected actual : String)
  | missingAccessPoint (app : String) (kind : AccessPoint.Kind)
  | shuttingDown
deriving DecidableEq

namespace Error

def message : Error → String
  | .credentials address source =>
    "problem with preparing TLS credentials for agent " ++ address ++ ": " ++ source.message
  | .invalidAddress address message => "invalid agent address " ++ address ++ ": " ++ message
  | .transport address reply => "call to agent " ++ address ++ " failed: " ++ reply.text
  | .reconnectFailed address _ =>
    "unable to re-establish connection with the agent " ++ address
  | .unreachable address operation _ => "failed to " ++ operation ++ " via the agent " ++ address
  | .stillUnreachable address operation =>
    "failed to " ++ operation ++ " via the agent " ++ address ++
      ", the agent is still not responding"
  | .backendStillFailing address operation backend =>
    "failed to " ++ operation ++ " via the agent " ++ address ++ ", " ++ backend ++
      " is still not responding"
  | .status endpoint message => endpoint ++ ": " ++ message
  | .decode endpoint message => "failed to parse response from " ++ endpoint ++ ": " ++ message
  | .unexpectedResponse expected actual =>
    "unexpected response from agent: expected " ++ expected ++ ", got " ++ actual
  | .missingAccessPoint app kind => "app " ++ app ++ " has no " ++ kind.name ++ " access point"
  | .shuttingDown => "agent communication is shutting down"

/-- The messages from the error to its root. -/
def messages : Error → List String
  | .reconnectFailed address source => message (.reconnectFailed address source) :: source.messages
  | .unreachable address operation source =>
    message (.unreachable address operation source) :: source.messages
  | .credentials address source => message (.credentials address source) :: source.messages
  | e => [e.message]

/-- The error and its causes in one line. -/
def line (e : Error) : String := ErrorChain.line e.messages

/-- Whether the agent itself could not be reached. -/
def isTransport : Error → Bool
  | .transport .. | .reconnectFailed .. | .unreachable .. | .stillUnreachable .. => true
  | _ => false

/-- Whether a failed exchange speaks against the agent. A shutdown does not, nor does a reply that
cannot belong to the request. -/
def countsAgainstAgent : Error → Bool
  | .shuttingDown | .unexpectedResponse .. => false
  | _ => true

end Error

end AgentRelay
