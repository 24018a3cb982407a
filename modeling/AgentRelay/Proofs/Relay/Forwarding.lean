import AgentRelay.Proofs.Relay.Counters
import AgentRelay.Relay.Kea
import AgentRelay.Relay.NamedStats
import AgentRelay.Relay.Rndc
import AgentRelay.Relay.State
import AgentRelay.Relay.Tail

/-! The operations that forward a request to an agent, all under one type. Each is refused for want
of an access point, or it is a round trip after which an error is handed on as it is, no counter of
an agent is changed and nothing is said of one. -/
namespace AgentRelay.Relay

variable {ω α : Type}

/-! ### What follows a round trip -/

/-- What an operation makes of an accounted reply: an error is the fault of its result and changes
nothing more, and a response changes no counter or news of an agent. -/
structure Continues (fault : α → Option Error) (goOn : Reply → Relay ω → α × Relay ω) : Prop where
  fault_error : ∀ e r, fault (goOn (.error e) r).1 = some e
  relay_error : ∀ e r, (goOn (.error e) r).2 = r
  quiet : ∀ reply r, Quiet r (goOn reply r).2

/-- Operations that do nothing, or put one request to the agent of the machine. -/
inductive Forwards (machine : Machine) (title : String) (fault : α → Option Error) :
    Operation ω α → Prop where
  | refused {a : α} {e : Error} (h : fault a = some e) : Forwards machine title fault (.refused a)
  | roundTrip {request : Request} {goOn : Reply → Relay ω → α × Relay ω}
      (h : Continues fault goOn) :
      Forwards machine title fault (.roundTrip machine title request goOn)

theorem forwards_hostState (address : String) (port : UInt16) :
    Forwards ⟨0, address, port⟩ "get state" failure?
      (Operation.hostState address port : Operation ω _) := by
  refine .roundTrip ⟨fun _ _ => rfl, fun _ _ => rfl, fun reply r => ?_⟩
  split
  · exact .refl r
  · exact quiet_log r _

/-- Events about apps and daemons say nothing of an agent. -/
theorem news?_of_backend {e : Event} (h : e.text ∈ [appFailed, appResumed, daemonFailed,
    daemonResumed]) (address : String) : news? address e = none := by
  have htexts : ∀ text ∈ [appFailed, appResumed, daemonFailed, daemonResumed],
      text ≠ agentUnreachable ∧ text ≠ agentResumed := by decide
  obtain ⟨hunreachable, hresumed⟩ := htexts _ h
  exact news?_of_text hunreachable hresumed address

theorem quiet_settleBind9 (app : App) (key : Stats.Key) (channel : Channel) (operation : String)
    (outcome : Except Error α) (r : Relay ω) :
    Quiet r (r.settleBind9 app key channel operation outcome).2 := by
  refine quiet_settle r _ _ (fun s => ?_) fun s e he address => news?_of_backend ?_ address
  · cases outcome <;> rfl
  · cases outcome <;> simp only [accountBind9] at he <;> split at he <;> simp at he <;>
      simp [he, appFailedEvent, appResumedEvent]

theorem forwards_rndcCommand (app : App) (command : String) :
    Forwards app.machine rndcOperation failure?
      (Operation.rndcCommand app command : Operation ω _) := by
  unfold Operation.rndcCommand
  split
  · exact .refused rfl
  · refine .roundTrip ⟨fun _ _ => rfl, fun _ _ => rfl, fun reply r => ?_⟩
    split
    · exact .refl r
    · exact (quiet_log r _).trans (quiet_settleBind9 app _ _ _ _ _)

theorem forwards_namedStats (decode : Json.Decoder α) (app : App) (path : String) :
    Forwards app.machine namedStatsOperation failure?
      (Operation.namedStats decode app path : Operation ω _) := by
  unfold Operation.namedStats
  split
  · exact .refused rfl
  · refine .roundTrip ⟨fun _ _ => rfl, fun _ _ => rfl, fun reply r => ?_⟩
    split
    · exact .refl r
    · exact quiet_settleBind9 app _ _ _ _ r

theorem text_of_mem_controlAgentEvents {app : App} {previous : Nat} {failures : List Error}
    {e : Event} (h : e ∈ controlAgentEvents app previous failures) :
    e.text = daemonFailed ∨ e.text = daemonResumed := by
  unfold controlAgentEvents at h
  split at h <;> split at h <;> simp at h <;> simp [h, daemonFailedEvent, daemonResumedEvent]

theorem text_of_mem_daemonEvents {app : App} {name : String} {previous current : Nat} {e : Event}
    (h : e ∈ daemonEvents app name previous current) :
    e.text = daemonFailed ∨ e.text = daemonResumed := by
  unfold daemonEvents at h
  split at h
  · simp at h
  · split at h
    · simp at h
    · split at h <;> simp at h <;> simp [h, daemonFailedEvent, daemonResumedEvent]

theorem text_of_mem_replyEvents {app : App} {tally : Tally} {c : Stats.KeaCounters} {e : Event}
    (h : e ∈ replyEvents app tally c) : e.text = daemonFailed ∨ e.text = daemonResumed := by
  obtain h | h := List.mem_append.1 h
  · exact text_of_mem_controlAgentEvents h
  · obtain ⟨_, _, h⟩ := List.mem_flatMap.1 h
    exact text_of_mem_daemonEvents h

theorem quiet_takeReply (app : App) (point : AccessPoint) (commands : List Kea.Command)
    (slots : List Kea.Slot) (message : Protocol.ForwardToKeaOverHttpRsp) (r : Relay ω) :
    Quiet r (takeReply app point commands slots message r).2 := by
  refine (quiet_log r _).trans (.trans (quiet_settle _ _ _ (fun s => rfl) fun s e he address => ?_)
    (quiet_log _ _))
  exact news?_of_backend (by simp [text_of_mem_replyEvents he]) address

theorem forwards_keaCommands (app : App) (commands : List Kea.Command) (slots : List Kea.Slot) :
    Forwards app.machine keaOperation (fun a => failure? a.1)
      (Operation.keaCommands app commands slots : Operation ω _) := by
  unfold Operation.keaCommands
  split
  · exact .refused rfl
  · refine .roundTrip ⟨fun _ _ => rfl, fun _ _ => rfl, fun reply r => ?_⟩
    split
    · exact .refl r
    · exact quiet_takeReply app _ commands slots _ r

theorem forwards_textTail (machine : Machine) (path : String) (offset : Int64) :
    Forwards machine "tail text file" failure?
      (Operation.textTail machine path offset : Operation ω _) := by
  refine .roundTrip ⟨fun _ _ => rfl, fun _ _ => rfl, fun reply r => ?_⟩
  split
  · exact .refl r
  · split <;> exact .refl r

/-! ### All of them -/

theorem Forwards.map {machine : Machine} {title : String} {fault : α → Option Error}
    {operation : Operation ω α} (h : Forwards machine title fault operation) :
    Forwards machine title id (operation.map fault) := by
  cases h with
  | refused h => exact .refused h
  | @roundTrip request goOn h =>
    have hmap : (Operation.roundTrip machine title request goOn).map fault =
        .roundTrip machine title request fun reply r =>
          (fault (goOn reply r).1, (goOn reply r).2) := rfl
    rw [hmap]
    exact .roundTrip ⟨h.fault_error, h.relay_error, h.quiet⟩

inductive Forwarding : Type 1 where
  | hostState (address : String) (port : UInt16)
  | rndcCommand (app : App) (command : String)
  | namedStats {α : Type} (decode : Json.Decoder α) (app : App) (path : String)
  | keaCommands (app : App) (commands : List Kea.Command) (slots : List Kea.Slot)
  | textTail (machine : Machine) (path : String) (offset : Int64)

namespace Forwarding

/-- The machine whose agent is asked. -/
def machine : Forwarding → Machine
  | .hostState address port => ⟨0, address, port⟩
  | .rndcCommand app _ => app.machine
  | .namedStats _ app _ => app.machine
  | .keaCommands app _ _ => app.machine
  | .textTail machine _ _ => machine

/-- What the operation is called in errors. -/
def title : Forwarding → String
  | .hostState .. => "get state"
  | .rndcCommand .. => rndcOperation
  | .namedStats .. => namedStatsOperation
  | .keaCommands .. => keaOperation
  | .textTail .. => "tail text file"

/-- The operation, of whose result the error is kept. -/
def operation : Forwarding → Operation ω (Option Error)
  | .hostState address port => (Operation.hostState address port).map failure?
  | .rndcCommand app command => (Operation.rndcCommand app command).map failure?
  | .namedStats decode app path => (Operation.namedStats decode app path).map failure?
  | .keaCommands app commands slots =>
    (Operation.keaCommands app commands slots).map fun a => failure? a.1
  | .textTail machine path offset => (Operation.textTail machine path offset).map failure?

theorem forwards (f : Forwarding) :
    Forwards f.machine f.title id (f.operation : Operation ω (Option Error)) := by
  cases f with
  | hostState address port => exact (forwards_hostState address port).map
  | rndcCommand app command => exact (forwards_rndcCommand app command).map
  | namedStats decode app path => exact (forwards_namedStats decode app path).map
  | keaCommands app commands slots => exact (forwards_keaCommands app commands slots).map
  | textTail machine path offset => exact (forwards_textTail machine path offset).map

end Forwarding

end AgentRelay.Relay
