import AgentRelay.Agent
import AgentRelay.Metrics
import AgentRelay.Network

/-! The agents known so far, one for an address. An agent is created with its first connection and
stays; its connection can be closed, replaced and opened anew. The registry also keeps what has
happened: traffic, measurements and log, each in order. -/
namespace AgentRelay

structure Registry (ω : Type) where
  world : ω
  agents : List (String × Agent) := []
  /-- Connections opened so far; the next one gets the next number. -/
  opened : Nat := 0
  /-- The end of all communication has been asked for. -/
  cancelled : Bool := false
  traffic : List Traffic := []
  metrics : Metrics := []
  logs : List Log.Entry := []

namespace Registry

variable {ω : Type}

def agent? (r : Registry ω) (address : String) : Option Agent :=
  Ordered.find? address r.agents

def connection? (r : Registry ω) (address : String) : Option Nat :=
  (r.agent? address).bind Agent.connection

def size (r : Registry ω) : Nat := r.agents.length

def put (r : Registry ω) (address : String) (agent : Agent) : Registry ω :=
  { r with agents := Ordered.insert address agent r.agents }

/-- Changes the agent at the address, if there is one. -/
def update (r : Registry ω) (address : String) (f : Agent → Agent) : Registry ω :=
  match r.agent? address with
  | some agent => r.put address (f agent)
  | none => r

def happened (r : Registry ω) (traffic : List Traffic) : Registry ω :=
  { r with traffic := r.traffic ++ traffic }

def measure (r : Registry ω) (measurements : Metrics) : Registry ω :=
  { r with metrics := r.metrics ++ measurements }

def log (r : Registry ω) (entries : List Log.Entry) : Registry ω :=
  { r with logs := r.logs ++ entries }

/-! ### Connections -/

/-- Takes the next number for a connection. -/
def issue (r : Registry ω) : Nat × Registry ω :=
  (r.opened + 1, { r with opened := r.opened + 1 })

/-- Opens a connection that belongs to no agent yet. -/
def connect (net : Network ω) (address : String) (r : Registry ω) : Except Error Nat × Registry ω :=
  match net.connect address r.world with
  | (some e, world) => (.error e, { r with world }.happened [.refused address e])
  | (none, world) =>
    let (connection, r) := { r with world }.issue
    (.ok connection, r.happened [.connected address connection])

/-- Drops the agent's connection. -/
def close (address : String) (r : Registry ω) : Registry ω :=
  match r.connection? address with
  | some connection =>
    (r.update address ({ · with connection := none })).happened [.dropped connection]
  | none => r

/-- Gives the agent a connection in place of the one it has. -/
def attach (address : String) (connection : Nat) (r : Registry ω) : Registry ω :=
  (r.close address).update address ({ · with connection := some connection })

/-! ### Agents -/

/-- The gauge of agents with a cached connection. -/
def gauge (r : Registry ω) : Registry ω := r.measure [.connections r.size]

/-- The agent at the address, created with its connection if the address is new. Nothing is stored
when the connection cannot be opened. -/
def enter (net : Network ω) (address : String) (r : Registry ω) : Except Error Agent × Registry ω :=
  match r.agent? address with
  | some agent => (.ok agent, r.gauge)
  | none =>
    match r.connect net address with
    | (.error e, r) => (.error e, r)
    | (.ok connection, r) =>
      let agent := Agent.create address connection
      let r := (r.put address agent).log
        [⟨.info, "connecting to new agent", [("agent", .text address)]⟩]
      (.ok agent, r.gauge)

/-- Looks the agent up first, and enters it only when that fails. -/
def getOrCreate (net : Network ω) (address : String) (r : Registry ω) :
    Except Error Agent × Registry ω :=
  match r.agent? address with
  | some agent =>
    (.ok agent, r.log [⟨.debug, "using existing agent connection", [("agent", .text address)]⟩])
  | none => r.enter net address

/-- Drops the agent's connection and opens a new one. When that fails the agent is left without. -/
def reconnect (net : Network ω) (address : String) (r : Registry ω) :
    Except Error Unit × Registry ω :=
  match (r.close address).connect net address with
  | (.error e, r) => (.error e, r.measure [.reconnect false])
  | (.ok connection, r) =>
    (.ok (), ((r.measure [.reconnect true]).attach address connection).log
      [⟨.info, "re-established connection to agent", [("agent", .text address)]⟩])

/-- Drops every connection, the oldest first. -/
def closeAll (r : Registry ω) : Registry ω :=
  let connections := (r.agents.filterMap (·.2.connection)).mergeSort
  let agents := r.agents.map fun (address, agent) => (address, { agent with connection := none })
  (({ r with agents }.happened (connections.map .dropped)).measure [.connections 0]).log
    [⟨.debug, "closed agent connections", [("count", .int r.size)]⟩]

/-! ### Calls -/

/-- Puts a request to the agent over a connection. -/
def exchange (net : Network ω) (address : String) (connection : Nat) (request : Request)
    (r : Registry ω) : Except Rpc.Status Response × Registry ω :=
  let (turn, world) := net.call address connection r.world
  (turn.remote.answer request,
    { r with world, cancelled := r.cancelled || turn.cancels }.happened
      [.called connection address request])

/-- Puts a request to the agent over its present connection. -/
def attempt (net : Network ω) (address : String) (request : Request) (r : Registry ω) :
    Except Rpc.Status Response × Registry ω :=
  match r.connection? address with
  | some connection => r.exchange net address connection request
  | none => (.error ⟨.unavailable, "connection closed", []⟩, r)

end Registry

end AgentRelay
