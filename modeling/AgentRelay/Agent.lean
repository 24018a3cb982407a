import AgentRelay.Stats
import AgentRelay.Text.Quoted

/-! What is kept of an agent from its first connection on. -/
namespace AgentRelay

/-- The connection is absent after it was closed and could not be opened again. No two agents are
created with the same connection, so the one an agent was created with tells it from all others. -/
structure Agent where
  address : String
  createdWith : Nat
  connection : Option Nat
  stats : Stats := {}
deriving DecidableEq

namespace Agent

def create (address : String) (connection : Nat) : Agent :=
  { address, createdWith := connection, connection := some connection }

/-- The agent in diagnostics. -/
def describe (a : Agent) : String :=
  "AgentRecord \x7b address: " ++ Text.quoted a.address ++ ", .. \x7d"

end Agent

end AgentRelay
