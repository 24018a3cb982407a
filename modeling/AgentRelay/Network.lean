import AgentRelay.Request

/-! What lies outside: opening connections to agents and calling them. Its behaviour is arbitrary
and may depend on everything that has happened, which is its state. -/
namespace AgentRelay

/-- What the agent at the end of a connection does with one call. -/
structure Turn where
  remote : Remote
  /-- The end of all communication is asked for while the call is under way. -/
  cancels : Bool := false

structure Network (ω : Type) where
  /-- Whether a connection to the address can be opened. -/
  connect : (address : String) → ω → Option Error × ω
  call : (address : String) → (connection : Nat) → ω → Turn × ω

/-- What happened between the server and the agents. Connections are numbered from one. -/
inductive Traffic where
  | connected (address : String) (connection : Nat)
  | refused (address : String) (error : Error)
  | called (connection : Nat) (address : String) (request : Request)
  | dropped (connection : Nat)
deriving DecidableEq

end AgentRelay
