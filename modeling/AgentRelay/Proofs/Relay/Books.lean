import AgentRelay.Proofs.Queue.Order
import AgentRelay.Proofs.Registry.Holdings
import AgentRelay.Proofs.Relay.AgentErrors

/-! What an operation writes into the counters of its agent. A request leaves all counters as they
are; settling an outcome changes the counters of one agent and nothing else in the registry; and each
operation settles in two places at most, once with the agent itself and once with the app behind it. -/
namespace AgentRelay

/-- The key under which the counters of an access point are kept. -/
def AccessPoint.statsKey (p : AccessPoint) : Stats.Key := ⟨p.address, p.port⟩

namespace Relay

variable {ω α β : Type}

/-- The counters of the agent at an address as they are reported; all are zero and no app has any
where no agent is known. -/
def statsOf (r : Relay ω) (address : String) : Stats := (r.stats? address 0).getD {}

theorem statsOf_eq (r : Relay ω) (address : String) :
    r.statsOf address = ((r.registry.agent? address).map Agent.stats).getD {} := rfl

theorem statsOf_of_agent? {r : Relay ω} {address : String} {agent : Agent}
    (h : r.registry.agent? address = some agent) : r.statsOf address = agent.stats := by
  rw [statsOf_eq, h]
  rfl

theorem statsOf_congr {r q : Relay ω} {address : String}
    (h : q.registry.agent? address = r.registry.agent? address) :
    q.statsOf address = r.statsOf address := by
  rw [statsOf_eq, h, statsOf_eq]

/-! ### Writing into the counters of one agent -/

/-- Between `r` and `q` the counters of the agent at the address, if there is one, were changed by
`f`; apart from that only events and log entries may have come. -/
structure Booked (address : String) (f : Stats → Stats) (r q : Relay ω) : Prop where
  relay : q = { r with registry := q.registry, events := q.events }
  registry : q.registry =
    { r.registry with agents := q.registry.agents, logs := q.registry.logs }
  own : q.registry.agent? address =
    (r.registry.agent? address).map fun agent => { agent with stats := f agent.stats }
  others : ∀ other ≠ address, q.registry.agent? other = r.registry.agent? other
  entries : ∀ P : List (String × Agent) → Prop,
    (∀ m address agent, P m → P (Ordered.insert address agent m)) →
      P r.registry.agents → P q.registry.agents

section

variable {address : String} {f g : Stats → Stats} {r q p : Relay ω}

theorem booked_of_agents (hrelay : q = { r with registry := q.registry, events := q.events })
    (hregistry : q.registry = { r.registry with logs := q.registry.logs }) :
    Booked address id r q := by
  have hagents : q.registry.agents = r.registry.agents := by rw [hregistry]
  have hagent : ∀ other, q.registry.agent? other = r.registry.agent? other := fun other => by
    rw [Registry.agent?, hagents]
    rfl
  refine ⟨hrelay, by rw [hagents, ← hregistry], ?_, fun other _ => hagent other,
    fun P _ h => hagents ▸ h⟩
  rw [hagent]
  exact (congrFun Option.map_id _).symm

theorem Booked.refl (address : String) (r : Relay ω) : Booked address id r r :=
  booked_of_agents rfl rfl

theorem booked_log (address : String) (r : Relay ω) (entries : List Log.Entry) :
    Booked address id r (r.log entries) := booked_of_agents rfl rfl

theorem Booked.trans (h₁ : Booked address f r q) (h₂ : Booked address g q p) :
    Booked address (g ∘ f) r p := by
  refine ⟨?_, ?_, ?_, fun other h => (h₂.others other h).trans (h₁.others other h),
    fun P hP h => h₂.entries P hP (h₁.entries P hP h)⟩
  · rw [h₂.relay, h₁.relay]
  · rw [h₂.registry, h₁.registry]
  · rw [h₂.own, h₁.own, Option.map_map]
    rfl

/-- Only a known agent has counters that can change. -/
theorem Booked.statsOf (h : Booked address f r q)
    (hknown : (r.registry.agent? address).isSome = true) :
    q.statsOf address = f (r.statsOf address) := by
  obtain ⟨agent, hagent⟩ := Option.isSome_iff_exists.1 hknown
  rw [statsOf_of_agent? hagent, statsOf_eq, h.own, hagent]
  rfl

theorem Booked.statsOf_unknown (h : Booked address f r q)
    (hunknown : r.registry.agent? address = none) : q.statsOf address = r.statsOf address :=
  statsOf_congr (by rw [h.own, hunknown]; rfl)

theorem Booked.statsOf_of_ne (h : Booked address f r q) {other : String} (hother : other ≠ address) :
    q.statsOf other = r.statsOf other := statsOf_congr (h.others other hother)

/-- Connections are none of the counters. -/
theorem Booked.connection? (h : Booked address f r q) (other : String) :
    q.registry.connection? other = r.registry.connection? other := by
  unfold Registry.connection?
  by_cases hother : other = address
  · rw [hother, h.own]
    cases r.registry.agent? address <;> rfl
  · rw [h.others other hother]

theorem Booked.traffic (h : Booked address f r q) :
    q.registry.traffic = r.registry.traffic := by rw [h.registry]

theorem Booked.sound (h : Booked address f r q) (hsound : r.registry.Sound) :
    q.registry.Sound := by
  refine ⟨h.entries _ (fun _ _ _ hm => hm.insert _ _) hsound.sorted, ?_⟩
  have hopened : q.registry.opened = r.registry.opened := by rw [h.registry]
  rw [h.traffic, hopened, funext h.connection?]
  exact hsound.kept

end

theorem booked_settle (address : String) (outcome : Except Error α)
    (account : Stats → Settlement α) (r : Relay ω) :
    Booked address (fun s => (account s).stats) r (r.settle address outcome account).2 := by
  unfold settle
  cases hagent : r.registry.agent? address with
  | none =>
    refine ⟨rfl, rfl, ?_, fun _ _ => rfl, fun _ _ h => h⟩
    simp [hagent]
  | some agent =>
    refine ⟨rfl, ?_, ?_, fun other hother => ?_, fun P hP h => ?_⟩
    · simp only [log, publish]
      rw [Registry.update_eq]
      rfl
    · show (r.registry.update address _).agent? address = _
      rw [Registry.agent?_update, hagent]
      rfl
    · exact Registry.agent?_update_of_ne _ _ hother
    · exact Registry.agents_update hP h address _

/-- A reply is settled with the agent, in its own counter only. -/
theorem booked_accountReply (machine : Machine) (operation : String) (reply : Reply)
    (r : Relay ω) : ∃ n : Nat → Nat,
      Booked machine.agentAddress (fun s => { s with currentErrors := n s.currentErrors }) r
        (r.accountReply machine operation reply).2 := by
  unfold accountReply
  split
  · have h := booked_settle machine.agentAddress reply (accountExchange machine operation reply) r
    cases reply with
    | ok response => exact ⟨fun _ => 0, h⟩
    | error e => exact ⟨(· + 1), h⟩
  · exact ⟨id, .refl _ r⟩

theorem booked_settleBind9 (app : App) (point : AccessPoint) (channel : Channel)
    (operation : String) (outcome : Except Error α) (r : Relay ω) : ∃ n : Stats → Nat,
      Booked app.machine.agentAddress
        (fun s => s.updateBind9 point.statsKey (channel.setCounter (n s))) r
        (r.settleBind9 app point.statsKey channel operation outcome).2 := by
  have h := booked_settle app.machine.agentAddress outcome
    (accountBind9 app point.statsKey channel operation outcome) r
  cases outcome with
  | ok a => exact ⟨fun _ => 0, h⟩
  | error e => exact ⟨fun s => channel.counter ((s.bind9? point.statsKey).getD {}) + 1, h⟩

theorem booked_takeReply (app : App) (point : AccessPoint) (commands : List Kea.Command)
    (slots : List Kea.Slot) (message : Protocol.ForwardToKeaOverHttpRsp) (r : Relay ω) :
    Booked app.machine.agentAddress
      (fun s => s.updateKea point.statsKey (countReply (Tally.of
        (batchError point.url message.status)
        (takeParts point.url commands slots message.keaResponses)))) r
      (takeReply app point commands slots message r).2 :=
  ((booked_log _ r _).trans (booked_settle _ (.ok ()) (accountKea app point.statsKey _) _)).trans
    (booked_log _ _ _)

/-! ### What an operation writes -/

namespace Forwarding

/-- The access point of the app that an operation is for; some operations are for no app. -/
def point? : Forwarding → Option AccessPoint
  | .hostState .. | .textTail .. => none
  | .rndcCommand app _ | .keaCommands app _ _ => app.accessPoint? .control
  | .namedStats _ app _ => app.accessPoint? .statistics

/-- How an operation that was answered changes the counters of the agent. -/
def Writes : Forwarding → (Stats → Stats) → Prop
  | .hostState .., f | .textTail .., f => f = id
  | .rndcCommand app _, f => ∃ point, app.accessPoint? .control = some point ∧
    ∃ n : Stats → Nat, f = fun s => s.updateBind9 point.statsKey (Channel.rndc.setCounter (n s))
  | .namedStats _ app _, f => ∃ point, app.accessPoint? .statistics = some point ∧
    ∃ n : Stats → Nat, f = fun s => s.updateBind9 point.statsKey (Channel.statistics.setCounter (n s))
  | .keaCommands app _ _, f => ∃ point, app.accessPoint? .control = some point ∧
    ∃ g, f = fun s => s.updateKea point.statsKey g

end Forwarding

/-- Operations that write nothing when there is no response, and `W` when there is one. -/
inductive Writing (machine : Machine) (title : String) (W : (Stats → Stats) → Prop) :
    Operation ω α → Prop where
  | refused (a : α) : Writing machine title W (.refused a)
  | roundTrip {request : Request} {goOn : Reply → Relay ω → α × Relay ω}
      (herror : ∀ e r, (goOn (.error e) r).2 = r)
      (hresponse : ∀ response r, request.Accepts response → ∃ f, W f ∧
        Booked machine.agentAddress f r (goOn (.ok response) r).2) :
      Writing machine title W (.roundTrip machine title request goOn)

theorem Writing.map {machine : Machine} {title : String} {W : (Stats → Stats) → Prop}
    {operation : Operation ω α} (h : Writing machine title W operation) (g : α → β) :
    Writing machine title W (operation.map g) := by
  cases h with
  | refused a => exact .refused _
  | @roundTrip request goOn herror hresponse =>
    have hmap : (Operation.roundTrip machine title request goOn).map g =
        .roundTrip machine title request fun reply r =>
          (g (goOn reply r).1, (goOn reply r).2) := rfl
    rw [hmap]
    exact .roundTrip herror hresponse

theorem writing_rndcCommand (app : App) (command : String) :
    Writing app.machine rndcOperation (Forwarding.rndcCommand app command).Writes
      (Operation.rndcCommand app command : Operation ω _) := by
  unfold Operation.rndcCommand
  split
  · exact .refused _
  · rename_i point hpoint
    refine .roundTrip (fun _ _ => rfl) ?_
    rintro response r ⟨message, hmessage⟩
    obtain ⟨n, h⟩ := booked_settleBind9 app point .rndc rndcOperation
      (rndcOutcome app.machine.agentAddress point message) _
    simp only [Except.bind, hmessage]
    exact ⟨_, ⟨point, hpoint, n, rfl⟩, (booked_log _ r _).trans h⟩

theorem writing_namedStats (decode : Json.Decoder α) (app : App) (path : String) :
    Writing app.machine namedStatsOperation (Forwarding.namedStats decode app path).Writes
      (Operation.namedStats decode app path : Operation ω _) := by
  unfold Operation.namedStats
  split
  · exact .refused _
  · rename_i point hpoint
    refine .roundTrip (fun _ _ => rfl) ?_
    rintro response r ⟨message, hmessage⟩
    obtain ⟨n, h⟩ := booked_settleBind9 app point .statistics namedStatsOperation
      (namedStatsOutcome decode app.machine.agentAddress (namedStatsUrl point path) message) r
    simp only [Except.bind, hmessage]
    exact ⟨_, ⟨point, hpoint, n, rfl⟩, h⟩

theorem writing_keaCommands (app : App) (commands : List Kea.Command) (slots : List Kea.Slot) :
    Writing app.machine keaOperation (Forwarding.keaCommands app commands slots).Writes
      (Operation.keaCommands app commands slots : Operation ω _) := by
  unfold Operation.keaCommands
  split
  · exact .refused _
  · rename_i point hpoint
    refine .roundTrip (fun _ _ => rfl) ?_
    rintro response r ⟨message, hmessage⟩
    simp only [Except.bind, hmessage]
    exact ⟨_, ⟨point, hpoint, _, rfl⟩, booked_takeReply app point commands slots message r⟩

theorem writing_hostState (address : String) (port : UInt16) :
    Writing ⟨0, address, port⟩ "get state" (Forwarding.hostState address port).Writes
      (Operation.hostState address port : Operation ω _) := by
  refine .roundTrip (fun _ _ => rfl) fun response r _ => ⟨id, rfl, ?_⟩
  split
  · exact .refl _ r
  · exact booked_log _ r _

theorem writing_textTail (machine : Machine) (path : String) (offset : Int64) :
    Writing machine "tail text file" (Forwarding.textTail machine path offset).Writes
      (Operation.textTail machine path offset : Operation ω _) := by
  refine .roundTrip (fun _ _ => rfl) fun response r _ => ⟨id, rfl, ?_⟩
  split
  · exact .refl _ r
  · split <;> exact .refl _ r

theorem Forwarding.writing (f : Forwarding) :
    Writing f.machine f.title f.Writes (f.operation : Operation ω (Option Error)) := by
  cases f with
  | hostState address port => exact (writing_hostState address port).map _
  | rndcCommand app command => exact (writing_rndcCommand app command).map _
  | namedStats decode app path => exact (writing_namedStats decode app path).map _
  | keaCommands app commands slots => exact (writing_keaCommands app commands slots).map _
  | textTail machine path offset => exact (writing_textTail machine path offset).map _

end Relay

end AgentRelay
