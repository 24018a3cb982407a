import AgentRelay.Relay.Basic

/-! Operations on the relay that put one request to an agent and make something of the reply. -/
namespace AgentRelay.Relay

/-- An operation is refused before anything is sent, or it sends a request and goes on with the
reply to it. -/
inductive Operation (ω α : Type) where
  | refused (answer : α)
  | exchange (address : String) (request : Request) (goOn : Reply → Relay ω → α × Relay ω)

namespace Operation

variable {ω α β : Type}

def map (f : α → β) : Operation ω α → Operation ω β
  | .refused a => .refused (f a)
  | .exchange address request goOn => .exchange address request fun reply r =>
    let (a, r) := goOn reply r
    (f a, r)

/-- Carries an operation out, with nobody else at the relay. -/
def perform (net : Network ω) : Operation ω α → Relay ω → α × Relay ω
  | .refused a, r => (a, r)
  | .exchange address request goOn, r =>
    let (reply, r) := r.submit net address request
    goOn reply r

end Operation

end AgentRelay.Relay
