import AgentRelay.Registry

/-! Requests are answered one after another, in the order in which they were queued. A call that
fails is tried once more over a new connection. Once the end of all communication has been asked
for, what is still queued is turned away. -/
namespace AgentRelay

abbrev Reply := Except Error Response

/-- A queued request. -/
structure Envelope where
  address : String
  request : Request
  /-- Whether the caller still waits for the reply. -/
  waiting : Bool := true

namespace Queue

variable {ω : Type} (net : Network ω)

def callEntry (address : String) (request : Request) (message : String) (status : Rpc.Status) :
    Log.Entry :=
  ⟨.warn, message, [("agent", .text address), ("operation", .text request.operation),
    ("error", .text status.text)]⟩

/-- The second attempt, after the first one failed. -/
def retry (address : String) (request : Request) (r : Registry ω) : Reply × Registry ω :=
  match r.reconnect net address with
  | (.error e, r) =>
    (.error (.reconnectFailed address e), r.measure (Metrics.complete request.operation .error))
  | (.ok (), r) =>
    match r.attempt net address request with
    | (.ok response, r) =>
      (.ok response, r.measure (Metrics.complete request.operation .retried))
    | (.error status, r) =>
      (.error (.transport address status),
        (r.log [callEntry address request "retry after reconnect failed" status]).measure
          (Metrics.complete request.operation .error))

/-- Puts a request to a known agent, reconnecting and trying once more when that fails. -/
def ask (address : String) (request : Request) (r : Registry ω) : Reply × Registry ω :=
  match r.attempt net address request with
  | (.ok response, r) =>
    (.ok response, r.measure (Metrics.complete request.operation .success))
  | (.error status, r) =>
    retry net address request
      (r.log [callEntry address request "call to agent failed, reconnecting" status])

/-- Issues a call. An agent that cannot be created is not asked. -/
def call (address : String) (request : Request) (r : Registry ω) : Reply × Registry ω :=
  match r.getOrCreate net address with
  | (.error e, r) => (.error e, r.measure (Metrics.complete request.operation .error))
  | (.ok _, r) => ask net address request r

/-- Handles one envelope. The reply of a caller that no longer waits is discarded. -/
def handle (e : Envelope) (r : Registry ω) : Reply × Registry ω :=
  let (reply, r) := call net e.address e.request r
  (reply, if e.waiting then r else r.log [⟨.debug, "caller stopped waiting, reply discarded",
    [("agent", .text e.address), ("operation", .text e.request.operation)]⟩])

def startedEntry : Log.Entry := ⟨.debug, "agent communication loop started", []⟩

def stoppedEntry (rejected : Nat) : Log.Entry :=
  ⟨.info, "agent communication loop stopped", [("rejected", .int rejected)]⟩

/-- The way by which requests reach the loop. -/
structure Channel where
  queued : List Envelope := []
  /-- Nothing is accepted any more. -/
  closed : Bool := false

/-- Puts an envelope at the end, unless the channel was closed. -/
def Channel.send? (e : Envelope) (c : Channel) : Option Channel :=
  if c.closed then none else some { c with queued := c.queued ++ [e] }

/-- Handles what is queued, in its order, until no more may be handled; the rest stays. -/
def serve : List Envelope → Registry ω → List Reply × List Envelope × Registry ω
  | [], r => ([], [], r)
  | e :: rest, r =>
    if r.cancelled then ([], e :: rest, r)
    else
      let (reply, r) := handle net e r
      let (replies, left, r) := serve rest r
      (reply :: replies, left, r)

/-- What the envelopes that are left in a closed channel are answered with. -/
def reject (left : List Envelope) : List Reply := left.map fun _ => .error .shuttingDown

/-- The whole life of the loop, once all callers have gone or the end has been asked for: it serves
the channel, closes it, and turns away what is left in it. -/
def run (c : Channel) (r : Registry ω) : List Reply × Channel × Registry ω :=
  let (replies, left, r) := serve net c.queued (r.log [startedEntry])
  (replies ++ reject left, { queued := [], closed := true }, r.log [stoppedEntry left.length])

/-- What the caller of an envelope gets to see. -/
def delivered (e : Envelope) (reply : Reply) : Option Reply :=
  if e.waiting then some reply else none

end Queue

end AgentRelay
