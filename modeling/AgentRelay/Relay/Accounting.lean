import AgentRelay.Relay.Operation

/-! Failures and successes on the counters of an agent. A failure adds one to its counter and a
success resets it; an event is published when a counter leaves zero and when it returns there. The
first failure is returned with its whole cause, the following ones only say that it lasts. -/
namespace AgentRelay

/-- What an outcome does to the counters of an agent: the result for the caller, the new counters,
the events to publish, and the log. -/
structure Settlement (α : Type) where
  result : Except Error α
  stats : Stats
  events : List Event := []
  logs : List Log.Entry := []

namespace Relay

variable {ω α : Type}

/-- Settles an outcome with the agent at the address and publishes its events. Where there is no
agent, there is nothing to count. -/
def settle (address : String) (outcome : Except Error α) (account : Stats → Settlement α)
    (r : Relay ω) : Except Error α × Relay ω :=
  match r.registry.agent? address with
  | none => (outcome, r)
  | some agent =>
    let s := account agent.stats
    let registry := r.registry.update address ({ · with stats := s.stats })
    (s.result, ({ r with registry }.log s.logs).publish s.events)

/-! ### Exchanges with an agent -/

def agentUnreachable : String := "cannot connect to agent on \x7bmachine\x7d"
def agentResumed : String := "communication with agent on \x7bmachine\x7d resumed"

def agentUnreachableEvent (machine : Machine) (e : Error) : Event :=
  { level := .error, text := agentUnreachable, details := some e.line,
    machine := some machine.subject }

def agentResumedEvent (machine : Machine) : Event :=
  { level := .warning, text := agentResumed, machine := some machine.subject }

def unreachableEntry (address operation : String) (errors : Nat) (e : Error) : Log.Entry :=
  ⟨.warn, "failed to reach agent", [("agent", .text address), ("operation", .text operation),
    ("errors", .int errors), ("transport", .bool e.isTransport), ("error", .text e.message)]⟩

/-- Accounts an exchange with the agent of a machine. -/
def accountExchange (machine : Machine) (operation : String) (outcome : Except Error α)
    (stats : Stats) : Settlement α :=
  let address := machine.agentAddress
  let previous := stats.currentErrors
  match outcome with
  | .ok a =>
    { result := .ok a
      stats := { stats with currentErrors := 0 }
      events := if 0 < previous then [agentResumedEvent machine] else [] }
  | .error e =>
    { result := .error (if previous = 0 then .unreachable address operation e
        else .stillUnreachable address operation)
      stats := { stats with currentErrors := previous + 1 }
      events := if previous = 0 then [agentUnreachableEvent machine e] else []
      logs := [unreachableEntry address operation (previous + 1) e] }

/-- Whether a reply is settled with the agent. -/
def isAccounted : Reply → Bool
  | .ok _ => true
  | .error e => e.countsAgainstAgent

/-- Accounts for a reply of the agent of a machine. -/
def accountReply (machine : Machine) (operation : String) (reply : Reply) (r : Relay ω) :
    Reply × Relay ω :=
  if isAccounted reply then
    r.settle machine.agentAddress reply (accountExchange machine operation reply)
  else (reply, r)

/-- Puts a request to the agent of a machine. The reply is accounted for before anything else is
made of it. -/
def Operation.roundTrip (machine : Machine) (operation : String) (request : Request)
    (goOn : Reply → Relay ω → α × Relay ω) : Operation ω α :=
  .exchange machine.agentAddress request fun reply r =>
    let (reply, r) := r.accountReply machine operation reply
    goOn reply r

/-! ### BIND 9 apps -/

/-- The channels of a BIND 9 app, each with a counter of its own. -/
inductive Channel where
  | rndc
  | statistics
deriving DecidableEq, Repr

def Channel.counter : Channel → Stats.Bind9Counters → Nat
  | .rndc, c => c.rndc
  | .statistics, c => c.statistics

def Channel.setCounter : Channel → Nat → Stats.Bind9Counters → Stats.Bind9Counters
  | .rndc, n, c => { c with rndc := n }
  | .statistics, n, c => { c with statistics := n }

def appFailed : String := "communication with \x7bapp\x7d failed"
def appResumed : String := "communication with \x7bapp\x7d resumed"

def appFailedEvent (app : App) (e : Error) : Event :=
  { level := .error, text := appFailed, details := some e.line,
    machine := some app.machine.subject, app := some app.subject }

def appResumedEvent (app : App) : Event :=
  { level := .warning, text := appResumed,
    machine := some app.machine.subject, app := some app.subject }

def bind9Entry (address : String) (key : Stats.Key) (operation : String) (errors : Nat)
    (e : Error) : Log.Entry :=
  ⟨.warn, "BIND9 call failed", [("agent", .text address),
    ("bind9", .text (key.address ++ ":" ++ toString key.port.toNat)),
    ("operation", .text operation), ("errors", .int errors), ("error", .text e.message)]⟩

/-- Accounts an answered call on a channel of a BIND 9 app. -/
def accountBind9 (app : App) (key : Stats.Key) (channel : Channel) (operation : String)
    (outcome : Except Error α) (stats : Stats) : Settlement α :=
  let address := app.machine.agentAddress
  let previous := channel.counter ((stats.bind9? key).getD {})
  let set (n : Nat) : Stats := stats.updateBind9 key (channel.setCounter n)
  match outcome with
  | .ok a =>
    { result := .ok a
      stats := set 0
      events := if 0 < previous then [appResumedEvent app] else [] }
  | .error e =>
    { result := .error (if previous = 0 then e
        else .backendStillFailing address operation "BIND9")
      stats := set (previous + 1)
      events := if previous = 0 then [appFailedEvent app e] else []
      logs := [bind9Entry address key operation (previous + 1) e] }

def settleBind9 (app : App) (key : Stats.Key) (channel : Channel) (operation : String)
    (outcome : Except Error α) (r : Relay ω) : Except Error α × Relay ω :=
  r.settle app.machine.agentAddress outcome (accountBind9 app key channel operation outcome)

end Relay

end AgentRelay
