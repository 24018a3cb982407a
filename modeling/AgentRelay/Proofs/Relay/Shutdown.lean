import AgentRelay.Proofs.Relay.Refusals

/-! What can still happen after a shutdown. Operations are refused and a further shutdown does
nothing, so of all that callers can do only the question for an agent can reach the network: a known
agent is handed out as it is, without a connection, but a new one is connected to all the same. So
the connections stay closed exactly when nobody asks for an agent that was not known before. -/
namespace AgentRelay

/-- The address to which an event opens a connection or fails to open one. -/
def Traffic.opening? : Traffic → Option String
  | .connected address _ | .refused address _ => some address
  | .called .. | .dropped _ => none

/-! ### Asking a registry for an agent -/

namespace Registry

variable {ω : Type} (net : Network ω) (r : Registry ω) {address : String}

theorem getOrCreate_known {agent : Agent} (h : r.agent? address = some agent) :
    ∃ entries, (r.getOrCreate net address).2 = r.log entries := by
  unfold getOrCreate
  rw [h]
  exact ⟨_, rfl⟩

theorem getOrCreate_new (h : r.agent? address = none) : ∃ e, e.opening? = some address ∧
    (r.getOrCreate net address).2.traffic = r.traffic ++ [e] := by
  rcases hconnect : net.connect address r.world with ⟨_ | e, w⟩
  · refine ⟨.connected address (r.opened + 1), rfl, ?_⟩
    simp only [getOrCreate, enter, h, connect_opened net r hconnect]
    rfl
  · refine ⟨.refused address e, rfl, ?_⟩
    simp only [getOrCreate, enter, h, connect_refused net r hconnect]
    rfl

end Registry

namespace Relay

variable {ω : Type} (net : Network ω)

theorem log_nil (r : Relay ω) : r.log [] = r := by simp [log, Registry.log]

theorem log_log (r : Relay ω) (entries more : List Log.Entry) :
    (r.log entries).log more = r.log (entries ++ more) := by simp [log, Registry.log]

theorem perform_connectedAgent (address : String) (r : Relay ω) :
    Action.perform net (.connectedAgent address) r =
      { r with registry := (r.registry.getOrCreate net address).2 } := rfl

/-! ### Actions on a relay that was shut down -/

section

variable {r : Relay ω} (hstopped : r.accepting = false)

include hstopped

/-- An action that asks for no new agent is seen in the log at most. -/
theorem perform_of_known {action : Action}
    (h : ∀ address, action = .connectedAgent address → r.registry.agent? address ≠ none) :
    ∃ entries, action.perform net r = r.log entries := by
  cases action with
  | forward f => exact ⟨[], (forward_of_stopped net hstopped f).trans (log_nil r).symm⟩
  | connectedAgent address =>
    obtain ⟨agent, hagent⟩ := Option.ne_none_iff_exists'.1 (h address rfl)
    obtain ⟨entries, hentries⟩ := Registry.getOrCreate_known net r.registry hagent
    exact ⟨entries, by rw [perform_connectedAgent, hentries]; rfl⟩
  | stats => exact ⟨[], (log_nil r).symm⟩
  | shutdown => exact ⟨[], (shutdown_of_stopped hstopped).trans (log_nil r).symm⟩

theorem run_of_known {later : List Action}
    (h : ∀ address, .connectedAgent address ∈ later → r.registry.agent? address ≠ none) :
    ∃ entries, run net later r = r.log entries := by
  induction later generalizing r with
  | nil => exact ⟨[], (log_nil r).symm⟩
  | cons action later ih =>
    have hknown : ∀ address, action = .connectedAgent address →
        r.registry.agent? address ≠ none :=
      fun address haction => h address (haction ▸ List.mem_cons_self)
    obtain ⟨entries, hperform⟩ := perform_of_known net hstopped hknown
    obtain ⟨more, hrun⟩ := ih (r := r.log entries) hstopped
      fun address haddress => h address (List.mem_cons_of_mem _ haddress)
    refine ⟨entries ++ more, ?_⟩
    calc
      _ = run net later (action.perform net r) := rfl
      _ = (r.log entries).log more := by rw [hperform, hrun]
      _ = _ := log_log r entries more

end

/-- What actions after a shutdown have led to: the attempts to open a connection that came, and
nothing else in the traffic. -/
structure Aftermath (later : List Action) (r q : Relay ω) (attempts : List Traffic) : Prop where
  traffic : q.registry.traffic = r.registry.traffic ++ attempts
  openings : ∀ e ∈ attempts, e.opening? ≠ none
  /-- Attempts were made for those agents that were asked for and not known. -/
  addresses : ∀ address, (∃ e ∈ attempts, e.opening? = some address) ↔
    .connectedAgent address ∈ later ∧ r.registry.agent? address = none
  /-- The records that were there have not changed. -/
  kept : ∀ address agent, r.registry.agent? address = some agent →
    q.registry.agent? address = some agent
  added : ∀ address, r.registry.agent? address = none → .connectedAgent address ∉ later →
    q.registry.agent? address = none

section

variable {r : Relay ω}

theorem aftermath_nil (r : Relay ω) : Aftermath [] r r [] :=
  ⟨(List.append_nil _).symm, by simp, by simp, fun _ _ h => h, fun _ h _ => h⟩

/-- An action of which nothing but the log is seen. -/
theorem aftermath_of_known {action : Action} {entries : List Log.Entry}
    (h : ∀ address, action = .connectedAgent address → r.registry.agent? address ≠ none) :
    Aftermath [action] r (r.log entries) [] := by
  refine ⟨(List.append_nil _).symm, by simp, fun address => ?_, fun _ _ hagent => hagent,
    fun _ hnone _ => hnone⟩
  simp only [List.not_mem_nil, false_and, exists_false, List.mem_singleton, false_iff, not_and]
  exact fun haction => h address haction.symm

theorem aftermath_of_new {address : String} (h : r.registry.agent? address = none) :
    ∃ e, Aftermath [.connectedAgent address] r
      (Action.perform net (.connectedAgent address) r) [e] := by
  obtain ⟨e, he, htraffic⟩ := Registry.getOrCreate_new net r.registry h
  have hothers : ∀ other ≠ address, (Action.perform net (.connectedAgent address) r).registry.agent?
      other = r.registry.agent? other := fun other =>
    Registry.agent?_getOrCreate_of_ne net r.registry
  refine ⟨e, htraffic, by simp [he], fun other => ?_, fun other agent hother => ?_,
    fun other hother hasked => ?_⟩
  · simp only [List.mem_singleton, exists_eq_left, he, Option.some.injEq,
      Action.connectedAgent.injEq]
    constructor
    · rintro rfl
      exact ⟨rfl, h⟩
    · exact fun hasked => hasked.1.symm
  · rw [hothers other, hother]
    rintro rfl
    rw [h] at hother
    cases hother
  · rw [hothers other, hother]
    rintro rfl
    exact hasked List.mem_cons_self

theorem Aftermath.trans {later more : List Action} {q p : Relay ω} {attempts others : List Traffic}
    (h₁ : Aftermath later r q attempts) (h₂ : Aftermath more q p others) :
    Aftermath (later ++ more) r p (attempts ++ others) := by
  refine ⟨?_, ?_, fun address => ⟨?_, ?_⟩,
    fun address agent hagent => h₂.kept address agent (h₁.kept address agent hagent),
    fun address hnone hasked => ?_⟩
  · rw [h₂.traffic, h₁.traffic, List.append_assoc]
  · intro e he
    exact (List.mem_append.1 he).elim (h₁.openings e) (h₂.openings e)
  · rintro ⟨e, he, haddress⟩
    obtain he | he := List.mem_append.1 he
    · obtain ⟨hasked, hnone⟩ := (h₁.addresses address).1 ⟨e, he, haddress⟩
      exact ⟨List.mem_append_left _ hasked, hnone⟩
    · obtain ⟨hasked, hnone⟩ := (h₂.addresses address).1 ⟨e, he, haddress⟩
      refine ⟨List.mem_append_right _ hasked, ?_⟩
      cases hagent : r.registry.agent? address with
      | none => rfl
      | some agent =>
        rw [h₁.kept address agent hagent] at hnone
        cases hnone
  · rintro ⟨hasked, hnone⟩
    by_cases hfirst : .connectedAgent address ∈ later
    · obtain ⟨e, he, haddress⟩ := (h₁.addresses address).2 ⟨hfirst, hnone⟩
      exact ⟨e, List.mem_append_left _ he, haddress⟩
    · obtain ⟨e, he, haddress⟩ := (h₂.addresses address).2
        ⟨(List.mem_append.1 hasked).resolve_left hfirst, h₁.added address hnone hfirst⟩
      exact ⟨e, List.mem_append_right _ he, haddress⟩
  · obtain ⟨hfirst, hrest⟩ := not_or.1 (List.mem_append.not.1 hasked)
    exact h₂.added address (h₁.added address hnone hfirst) hrest

theorem aftermath_perform (hstopped : r.accepting = false) (action : Action) :
    ∃ attempts, Aftermath [action] r (action.perform net r) attempts := by
  by_cases h : ∀ address, action = .connectedAgent address → r.registry.agent? address ≠ none
  · obtain ⟨entries, hperform⟩ := perform_of_known net hstopped h
    rw [hperform]
    exact ⟨[], aftermath_of_known h⟩
  · obtain ⟨address, h⟩ := Classical.not_forall.1 h
    obtain ⟨rfl, hnew⟩ := Classical.not_imp.1 h
    obtain ⟨e, he⟩ := aftermath_of_new net (Classical.not_not.1 hnew)
    exact ⟨[e], he⟩

theorem aftermath_run (hstopped : r.accepting = false) (later : List Action) :
    ∃ attempts, Aftermath later r (run net later r) attempts := by
  induction later generalizing r with
  | nil => exact ⟨[], aftermath_nil r⟩
  | cons action later ih =>
    obtain ⟨attempts, hfirst⟩ := aftermath_perform net hstopped action
    have hstill : (action.perform net r).accepting = false := stopped_perform hstopped action
    obtain ⟨others, hrest⟩ := ih hstill
    exact ⟨attempts ++ others, hfirst.trans hrest⟩

end

/-! ### The first shutdown -/

/-- What callers may hope for between a shutdown and a later state: no connection was opened or
tried, no record was added, and no record has a connection. -/
structure Dormant (r q : Relay ω) : Prop where
  attempts : q.registry.traffic.filterMap Traffic.opening? =
    r.registry.traffic.filterMap Traffic.opening?
  records : q.registry.size = r.registry.size
  disconnected : ∀ address, q.registry.connection? address = none

theorem agent?_shutdown {r : Relay ω} (h : r.accepting = true) (address : String) :
    r.shutdown.registry.agent? address = (r.registry.agent? address).map Registry.closed := by
  have hstart : r.stop.start.registry.agent? address = r.registry.agent? address := by
    unfold start
    split <;> rfl
  unfold shutdown
  rw [if_pos h, ← hstart]
  exact Registry.agent?_closeAll address

theorem dormant_of_log {r : Relay ω} (h : r.accepting = true) (entries : List Log.Entry) :
    Dormant r.shutdown (r.shutdown.log entries) := ⟨rfl, rfl, connection?_shutdown h⟩

/-- Where nothing was tried, no agent was asked for but those that were known. -/
theorem Aftermath.known_of_attempts {later : List Action} {r q : Relay ω} {attempts : List Traffic}
    (h : Aftermath later r q attempts)
    (hattempts : q.registry.traffic.filterMap Traffic.opening? =
      r.registry.traffic.filterMap Traffic.opening?) {address : String}
    (hasked : .connectedAgent address ∈ later) : r.registry.agent? address ≠ none := by
  intro hnone
  obtain ⟨e, he, haddress⟩ := (h.addresses address).2 ⟨hasked, hnone⟩
  rw [h.traffic, List.filterMap_append, List.append_right_eq_self] at hattempts
  have hnothing := List.filterMap_eq_nil_iff.1 hattempts e he
  rw [haddress] at hnothing
  cases hnothing

/-- After the first shutdown, whatever callers do: what they hope for is kept exactly when they ask
for no agent but those that were known. In the traffic nothing comes but attempts to open
connections, and these go to the agents that are asked for and were not known. The agents that were
known stay without a connection. -/
theorem dormant_after_shutdown_iff (net : Network ω) (r : Relay ω) (later : List Action)
    (h : r.accepting = true) :
    (Dormant r.shutdown (run net later r.shutdown) ↔
      ∀ address, .connectedAgent address ∈ later → r.registry.agent? address ≠ none) ∧
    (∃ attempts, Aftermath later r.shutdown (run net later r.shutdown) attempts) ∧
    ∀ address, r.registry.agent? address ≠ none →
      (run net later r.shutdown).registry.connection? address = none := by
  have hstopped := accepting_shutdown r
  have hknown : ∀ address, r.shutdown.registry.agent? address ≠ none ↔
      r.registry.agent? address ≠ none := fun address => by rw [agent?_shutdown h]; simp
  obtain ⟨attempts, haftermath⟩ := aftermath_run net hstopped later
  refine ⟨⟨fun hdormant address hasked => ?_, fun hasked => ?_⟩, ⟨attempts, haftermath⟩,
    fun address hagent => ?_⟩
  · exact (hknown address).1 (haftermath.known_of_attempts hdormant.attempts hasked)
  · obtain ⟨entries, hrun⟩ := run_of_known net hstopped fun address haddress =>
      (hknown address).2 (hasked address haddress)
    rw [hrun]
    exact dormant_of_log h entries
  · obtain ⟨agent, hagent⟩ := Option.ne_none_iff_exists'.1 hagent
    have hclosed := haftermath.kept address (Registry.closed agent)
      (by rw [agent?_shutdown h, hagent]; rfl)
    exact Registry.connection?_eq _ hclosed

/-- A known agent is asked for after the shutdown, and a new one by an operation only. -/
theorem dormant_after_shutdown_iff_connected :
    connectedRelay.accepting = true ∧
    Dormant connectedRelay.shutdown (run deafNetwork [.connectedAgent "10.0.0.1:8080",
      .forward (.hostState "10.0.0.2" 8080)] connectedRelay.shutdown) := by
  have haccepting : connectedRelay.accepting = true := rfl
  obtain ⟨hdormant, -⟩ := dormant_after_shutdown_iff deafNetwork connectedRelay
    [.connectedAgent "10.0.0.1:8080", .forward (.hostState "10.0.0.2" 8080)] haccepting
  refine ⟨haccepting, hdormant.2 fun address hasked => ?_⟩
  simp only [List.mem_cons, Action.connectedAgent.injEq, reduceCtorEq, List.not_mem_nil,
    or_false] at hasked
  subst hasked
  decide

/-- Another agent is asked for after the shutdown, and a connection to it is opened and stays. -/
theorem new_agent_connected_after_shutdown :
    connectedRelay.accepting = true ∧
    (run deafNetwork [.connectedAgent "10.0.0.2:8080"] connectedRelay.shutdown).registry.connection?
      "10.0.0.2:8080" = some 2 ∧
    ¬Dormant connectedRelay.shutdown
      (run deafNetwork [.connectedAgent "10.0.0.2:8080"] connectedRelay.shutdown) := by
  have hconnection : (run deafNetwork [.connectedAgent "10.0.0.2:8080"]
      connectedRelay.shutdown).registry.connection? "10.0.0.2:8080" = some 2 := rfl
  refine ⟨rfl, hconnection, fun h => ?_⟩
  rw [h.disconnected] at hconnection
  cases hconnection

end Relay

end AgentRelay
