import AgentRelay.Kea.Slot
import AgentRelay.Relay.Accounting

/-! Commands for a Kea control agent. Several commands travel in one request; the part of the reply
to each of them fills the slot of that command, or gives an error in its place. What went wrong is
counted for the control agent and, element by element, for the daemons behind it. -/
namespace AgentRelay.Relay

open Protocol

variable {ω : Type}

def keaOperation : String := "send Kea commands"

/-- The daemon that stands for the control agent itself. -/
def controlAgent : String := "ca"

/-- The failure of the whole batch, and one entry for every part of the reply; `none` is success. -/
structure KeaResult where
  error : Option Error := none
  commandErrors : List (Option Error) := []

def KeaResult.isOk (k : KeaResult) : Bool :=
  k.error.isNone && k.commandErrors.all Option.isNone

def keaRequest (url : String) (commands : List Kea.Command) : ForwardToKeaOverHttpReq :=
  ⟨url, commands.map fun c => ⟨c.print⟩⟩

/-! ### Reading a reply -/

/-- Reads one part of the reply into the slot at its position. -/
def takePart (url : String) (commands : List Kea.Command) (slots : List Kea.Slot) (index : Nat)
    (part : KeaResponse) : Except Error Kea.Slot :=
  if succeeded part.status then
    match commands[index]?, slots[index]? with
    | some command, some slot =>
      (slot.decode command part.response).mapError (.decode url ·.message)
    | _, _ => .error (.decode url ("unexpected response #" ++ toString index))
  else .error (.status url (statusMessage part.status))

def takeParts (url : String) (commands : List Kea.Command) (slots : List Kea.Slot)
    (parts : List KeaResponse) : List (Except Error Kea.Slot) :=
  parts.mapIdx (takePart url commands slots)

/-- What a part of the reply that failed says. -/
def failure? {α : Type} : Except Error α → Option Error
  | .ok _ => none
  | .error e => some e

/-- The slots after the reply: those whose part succeeded are filled. -/
def fillSlots (slots : List Kea.Slot) (outcomes : List (Except Error Kea.Slot)) :
    List Kea.Slot :=
  slots.mapIdx fun i slot => match outcomes[i]? with
    | some (.ok filled) => filled
    | _ => slot

/-- The failure of the batch as a whole. -/
def batchError (url : String) (status : Option Status) : Option Error :=
  if succeeded status then none else some (.status url (statusMessage status))

/-! ### Counting -/

/-- What one reply says: the failures of the control agent in order, and for every daemon the failed
elements since its last one that did not fail. -/
structure Tally where
  failures : List Error := []
  daemons : List (String × Nat) := []

/-- Counts one element. Without a daemon and a result it says nothing; without a name it speaks for
the control agent. -/
def countElement (daemons : List (String × Nat)) : Kea.DaemonResult → List (String × Nat)
  | (some name, some result) =>
    let name := if name = "" then controlAgent else name
    let count := if result = Kea.resultError then (Ordered.find? name daemons).getD 0 + 1 else 0
    Ordered.insert name count daemons
  | _ => daemons

/-- The elements of all slots that were filled, in the order of the reply. -/
def decodedElements (outcomes : List (Except Error Kea.Slot)) : List Kea.DaemonResult :=
  outcomes.flatMap fun
    | .ok slot => slot.daemonResults
    | .error _ => []

def Tally.of (batch : Option Error) (outcomes : List (Except Error Kea.Slot)) : Tally where
  failures := batch.toList ++ outcomes.filterMap failure?
  daemons := (decodedElements outcomes).foldl countElement []

/-- What is logged about elements that say nothing. -/
def elementLog : Kea.DaemonResult → List Log.Entry
  | (some _, some _) => []
  | _ => [⟨.warn, "missing daemon or result in response from Kea CA", []⟩]

/-! ### Accounting -/

def daemonFailed : String := "communication with \x7bdaemon\x7d failed"
def daemonResumed : String := "communication with \x7bdaemon\x7d resumed"

def daemonFailedEvent (app : App) (daemon : Subject) (details : Option String) : Event :=
  { level := .error, text := daemonFailed, details, machine := some app.machine.subject,
    app := some app.subject, daemon := some daemon }

def daemonResumedEvent (app : App) (daemon : Subject) : Event :=
  { level := .warning, text := daemonResumed, machine := some app.machine.subject,
    app := some app.subject, daemon := some daemon }

/-- The control agent as an event names it; it need not be among the daemons of the app. -/
def controlAgentSubject (app : App) : Subject :=
  match app.daemon? controlAgent with
  | some daemon => daemon.subject
  | none => ⟨0, controlAgent⟩

/-- A counter after `count` more failures; no failure resets it. -/
def nextCount (previous count : Nat) : Nat := if count = 0 then 0 else previous + count

/-- The event for a counter of the control agent that leaves or returns to zero. -/
def controlAgentEvents (app : App) (previous : Nat) (failures : List Error) : List Event :=
  if failures ≠ [] then
    if previous = 0 then
      [daemonFailedEvent app (controlAgentSubject app)
        (some ("\n".intercalate (failures.map Error.message)))]
    else []
  else if 0 < previous then [daemonResumedEvent app (controlAgentSubject app)]
  else []

/-- The event for a counter of a daemon; only the daemons of the app have events. -/
def daemonEvents (app : App) (name : String) (previous current : Nat) : List Event :=
  if (previous = 0) = (current = 0) then []
  else
    match app.daemon? name with
    | none => []
    | some daemon =>
      if current = 0 then [daemonResumedEvent app daemon.subject]
      else [daemonFailedEvent app daemon.subject none]

def daemonCount (counters : List (String × Nat)) (name : String) : Nat :=
  (Ordered.find? name counters).getD 0

/-- The counters of a Kea app after a reply. -/
def countReply (tally : Tally) (c : Stats.KeaCounters) : Stats.KeaCounters where
  controlAgent := nextCount c.controlAgent tally.failures.length
  daemons := tally.daemons.foldl (fun counters (name, count) =>
    Ordered.insert name (nextCount (daemonCount counters name) count) counters) c.daemons

/-- The events of a reply: the control agent's, then those of the daemons by name. -/
def replyEvents (app : App) (tally : Tally) (c : Stats.KeaCounters) : List Event :=
  controlAgentEvents app c.controlAgent tally.failures ++
    tally.daemons.flatMap fun (name, count) =>
      let previous := daemonCount c.daemons name
      daemonEvents app name previous (nextCount previous count)

def replyLog (app : App) (tally : Tally) (c : Stats.KeaCounters) : List Log.Entry :=
  if tally.failures ≠ [] ∧ c.controlAgent = 0 then
    [⟨.warn, "communication with Kea CA failed",
      [("app", .text app.name), ("errors", .int tally.failures.length)]⟩]
  else []

/-- Accounts a reply of a Kea app. -/
def accountKea (app : App) (key : Stats.Key) (tally : Tally) (stats : Stats) : Settlement Unit :=
  let counters := (stats.kea? key).getD {}
  { result := .ok ()
    stats := stats.updateKea key (countReply tally)
    events := replyEvents app tally counters
    logs := replyLog app tally counters }

/-! ### The operation -/

/-- Makes the result of a reply and accounts for it. -/
def takeReply (app : App) (point : AccessPoint) (commands : List Kea.Command)
    (slots : List Kea.Slot) (message : ForwardToKeaOverHttpRsp) (r : Relay ω) :
    (KeaResult × List Kea.Slot) × Relay ω :=
  let url := point.url
  let batch := batchError url message.status
  let outcomes := takeParts url commands slots message.keaResponses
  let r := r.log ((decodedElements outcomes).flatMap elementLog)
  let (_, r) := r.settle app.machine.agentAddress (.ok ())
    (accountKea app ⟨point.address, point.port⟩ (Tally.of batch outcomes))
  let r := r.log [⟨.debug, "Kea commands answered", [("app", .text app.name),
    ("url", .text url), ("commands", .int commands.length)]⟩]
  ((⟨batch, outcomes.map failure?⟩, fillSlots slots outcomes), r)

/-- Sends commands to the app's control agent in one request. The result comes with the slots after
the reply; they are as they were when nothing could be sent. -/
def Operation.keaCommands (app : App) (commands : List Kea.Command) (slots : List Kea.Slot) :
    Operation ω (Except Error KeaResult × List Kea.Slot) :=
  match app.accessPoint? .control with
  | none => .refused (.error (.missingAccessPoint app.name .control), slots)
  | some point =>
    .roundTrip app.machine keaOperation (.forwardToKeaOverHttp (keaRequest point.url commands))
      fun reply r =>
        match reply.bind Response.forwardToKeaOverHttp? with
        | .error e => ((.error e, slots), r)
        | .ok message =>
          let ((result, slots), r) := takeReply app point commands slots message r
          ((.ok result, slots), r)

end AgentRelay.Relay
