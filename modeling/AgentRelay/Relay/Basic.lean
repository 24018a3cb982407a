import AgentRelay.Config
import AgentRelay.Queue

/-! The relay: it puts requests to agents through one queue, keeps their error counters, and
publishes events for the operator. After a shutdown it accepts nothing any more and holds no
connection. -/
namespace AgentRelay

structure Relay (ω : Type) where
  registry : Registry ω
  /-- No shutdown has been called for. -/
  accepting : Bool := true
  /-- The queue has been looked at. -/
  started : Bool := false
  /-- The requests that the queue holds at a time. -/
  capacity : Nat := ({} : Config).queueCapacity
  /-- The events published so far. -/
  events : List Event := []

namespace Relay

variable {ω : Type}

def log (r : Relay ω) (entries : List Log.Entry) : Relay ω :=
  { r with registry := r.registry.log entries }

def publish (r : Relay ω) (events : List Event) : Relay ω :=
  { r with events := r.events ++ events }

/-- The relay publishes to a memory, one event after another. -/
theorem events_publish (r : Relay ω) (events : List Event) :
    (r.publish events).events = (events.foldl Event.Memory.publish ⟨r.events⟩).events :=
  (Event.Memory.events_publishAll ⟨r.events⟩ events).symm

/-- The queue is first looked at when there is something to wait for. -/
def start (r : Relay ω) : Relay ω :=
  if r.started then r else { r.log [Queue.startedEntry] with started := true }

/-- Answers a request whose turn it is in the queue. -/
def answer (net : Network ω) (address : String) (request : Request) (r : Relay ω) :
    Reply × Relay ω :=
  if r.registry.cancelled then (.error .shuttingDown, r)
  else
    let (reply, registry) := Queue.handle net ⟨address, request, true⟩ r.registry
    (reply, { r with registry })

/-- Queues a request and waits for its reply. -/
def submit (net : Network ω) (address : String) (request : Request) (r : Relay ω) :
    Reply × Relay ω :=
  if r.accepting then r.start.answer net address request else (.error .shuttingDown, r)

/-! ### The end -/

/-- From here on nothing is accepted, and what is queued is turned away. -/
def stop (r : Relay ω) : Relay ω :=
  let r := r.log [⟨.info, "stopping communication with agents", []⟩]
  { r with registry := { r.registry with cancelled := true }, accepting := false }

/-- Drops every connection. -/
def release (r : Relay ω) : Relay ω :=
  { r with registry := r.registry.closeAll }.log
    [⟨.info, "stopped communication with agents", []⟩]

/-- Stops the queue and drops every connection. A repeated shutdown does nothing. -/
def shutdown (r : Relay ω) : Relay ω :=
  if r.accepting then (r.stop.start.log [Queue.stoppedEntry 0]).release else r

/-! ### Agents -/

/-- The agent at the address, created with its connection if the address is new. A relay that was
shut down creates one all the same. -/
def connectedAgent (net : Network ω) (address : String) (r : Relay ω) :
    Except Error Agent × Relay ω :=
  let (agent, registry) := r.registry.getOrCreate net address
  (agent, { r with registry })

/-- The counters of an agent. With the port zero, the address has a port already. -/
def stats? (r : Relay ω) (address : String) (port : UInt16) : Option Stats :=
  (r.registry.agent? (if port = 0 then address else Endpoint.join address port)).map Agent.stats

end Relay

end AgentRelay
