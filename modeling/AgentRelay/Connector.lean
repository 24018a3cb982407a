import AgentRelay.Credentials.Handshake
import AgentRelay.Error
import AgentRelay.ServerName
import AgentRelay.Uri

/-! What has to hold before a connection to an agent is opened. The agent is dialed only when the
connection is first used. -/
namespace AgentRelay.Connector

/-- Checks the address, then the credentials, and then whether a handshake is possible under a name
that the agent can prove. -/
def prepare (credentials : Credentials) (now : Int) (address : String) : Except Error Unit := do
  let host ← (Endpoint.host address).mapError fun f => .invalidAddress address f.message
  (credentials.validate now).mapError (.credentials address)
  (Uri.check ("https://" ++ address)).mapError fun _ => .invalidAddress address "invalid URI"
  if !(credentials.supportsHandshake && ServerName.isValid host) then
    throw (.credentials address (.tls "transport error"))

end AgentRelay.Connector
