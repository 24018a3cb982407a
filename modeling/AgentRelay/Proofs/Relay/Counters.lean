import AgentRelay.Proofs.Queue.Conversation
import AgentRelay.Relay.Accounting

/-! The error counter of an agent, and what the published events say of the agent. A request moves
them in one of four ways only, according to how it ends, and accounting for outcomes of apps leaves
them alone. -/
namespace AgentRelay

/-- The errors in which a call to a known agent ends. -/
def Error.isCallFailure : Error → Bool
  | .transport .. | .reconnectFailed .. => true
  | _ => false

theorem Error.countsAgainstAgent_of_isCallFailure {e : Error} (h : e.isCallFailure = true) :
    e.countsAgainstAgent = true := by
  cases e <;> first | rfl | cases h

namespace Relay

open Queue (Conversation Exchanged)
open Registry (Scene)

variable {ω α : Type}

/-- The failures since the last success, where there is an agent at the address. -/
def errors? (r : Relay ω) (address : String) : Option Nat :=
  (r.registry.agent? address).map (·.stats.currentErrors)

/-- What an event can say of an agent. -/
inductive News where
  | unreachable
  | resumed
deriving DecidableEq

/-- What an event says of the agent at the address itself, and not of an app behind it. -/
def news? (address : String) (e : Event) : Option News :=
  if e.machine.map Subject.label = some address then
    if e.text = agentUnreachable then some .unreachable
    else if e.text = agentResumed then some .resumed
    else none
  else none

def news (r : Relay ω) (address : String) : List News := r.events.filterMap (news? address)

theorem isSome_of_errors? {r : Relay ω} {address : String} {n : Nat}
    (h : r.errors? address = some n) : (r.registry.agent? address).isSome = true := by
  obtain ⟨agent, hagent, -⟩ := Option.map_eq_some_iff.1 h
  rw [hagent, Option.isSome_some]

theorem news?_of_text {e : Event} (hunreachable : e.text ≠ agentUnreachable)
    (hresumed : e.text ≠ agentResumed) (address : String) : news? address e = none := by
  simp [news?, hunreachable, hresumed]

theorem news?_unreachable (machine : Machine) (e : Error) :
    news? machine.agentAddress (agentUnreachableEvent machine e) = some .unreachable := by
  simp [news?, agentUnreachableEvent, Machine.subject]

theorem news?_resumed (machine : Machine) :
    news? machine.agentAddress (agentResumedEvent machine) = some .resumed := by
  simp [news?, agentResumedEvent, Machine.subject, agentResumed, agentUnreachable]

/-- An event about a machine says nothing of the agents of others. -/
theorem news?_of_ne {e : Event} {machine : Machine} (he : e.machine = some machine.subject)
    {other : String} (h : other ≠ machine.agentAddress) : news? other e = none := by
  simp [news?, he, Machine.subject, h.symm]

/-! ### Changes that are seen in no counter and no news -/

structure Quiet (r q : Relay ω) : Prop where
  errors : ∀ address, q.errors? address = r.errors? address
  news : ∀ address, q.news address = r.news address
  accepting : q.accepting = r.accepting

theorem Quiet.refl (r : Relay ω) : Quiet r r := ⟨fun _ => rfl, fun _ => rfl, rfl⟩

theorem Quiet.trans {r q p : Relay ω} (h₁ : Quiet r q) (h₂ : Quiet q p) : Quiet r p :=
  ⟨fun address => (h₂.errors address).trans (h₁.errors address),
    fun address => (h₂.news address).trans (h₁.news address), h₂.accepting.trans h₁.accepting⟩

theorem quiet_log (r : Relay ω) (entries : List Log.Entry) : Quiet r (r.log entries) :=
  ⟨fun _ => rfl, fun _ => rfl, rfl⟩

/-! ### Settling an outcome -/

section

variable (r : Relay ω) {address : String} (outcome : Except Error α)
  (account : Stats → Settlement α)

theorem settle_unknown (h : r.registry.agent? address = none) :
    r.settle address outcome account = (outcome, r) := by
  unfold settle
  rw [h]

theorem settle_known {agent : Agent} (h : r.registry.agent? address = some agent) :
    (r.settle address outcome account).1 = (account agent.stats).result ∧
      (r.settle address outcome account).2.errors? address =
        some (account agent.stats).stats.currentErrors ∧
      (r.settle address outcome account).2.events = r.events ++ (account agent.stats).events := by
  unfold settle
  rw [h]
  refine ⟨rfl, ?_, rfl⟩
  show ((r.registry.update address _).agent? address).map _ = _
  rw [Registry.agent?_update, h]
  rfl

theorem errors?_settle_of_ne {other : String} (h : other ≠ address) :
    (r.settle address outcome account).2.errors? other = r.errors? other := by
  unfold settle
  split
  · rfl
  · show ((r.registry.update address _).agent? other).map _ = _
    rw [Registry.agent?_update_of_ne _ _ h]
    rfl

theorem accepting_settle : (r.settle address outcome account).2.accepting = r.accepting := by
  unfold settle
  split <;> rfl

/-- Events that say nothing of an agent leave its news as they are. -/
theorem news_settle {other : String}
    (hevents : ∀ s, ∀ e ∈ (account s).events, news? other e = none) :
    (r.settle address outcome account).2.news other = r.news other := by
  cases h : r.registry.agent? address with
  | none => rw [settle_unknown r outcome account h]
  | some agent =>
    obtain ⟨-, -, hpublished⟩ := settle_known r outcome account h
    unfold news
    rw [hpublished, List.filterMap_append, List.filterMap_eq_nil_iff.2 (hevents _),
      List.append_nil]

theorem quiet_settle (hstats : ∀ s, (account s).stats.currentErrors = s.currentErrors)
    (hevents : ∀ s, ∀ e ∈ (account s).events, ∀ address, news? address e = none) :
    Quiet r (r.settle address outcome account).2 := by
  refine ⟨fun other => ?_,
    fun other => news_settle r outcome account fun s e he => hevents s e he other,
    accepting_settle r outcome account⟩
  by_cases hother : other = address
  · rw [hother]
    cases h : r.registry.agent? address with
    | none => rw [settle_unknown r outcome account h]
    | some agent =>
      obtain ⟨-, herrors, -⟩ := settle_known r outcome account h
      rw [herrors, hstats, errors?, h]
      rfl
  · exact errors?_settle_of_ne r outcome account hother

end

/-! ### How a request ends -/

section

variable (net : Network ω) (address : String)

/-- How a request ends, as far as the agent's counter is concerned: before the call, in the failure
to open the first connection, or in an answer or a failure of an agent that is known by then. -/
inductive Ending (r q : Relay ω) : Reply → Prop where
  | turnedAway (h : r.accepting = false ∨ r.registry.cancelled = true)
      (hsame : q.registry.agent? address = r.registry.agent? address) :
      Ending r q (.error .shuttingDown)
  | refused {e : Error} {w : ω} (hnew : r.registry.agent? address = none)
      (hstill : q.registry.agent? address = none)
      (hconnect : net.connect address r.registry.world = (some e, w)) : Ending r q (.error e)
  | answered (response : Response)
      (herrors : q.errors? address = some ((r.errors? address).getD 0)) :
      Ending r q (.ok response)
  | failed {e : Error} (he : e.isCallFailure = true)
      (herrors : q.errors? address = some ((r.errors? address).getD 0)) : Ending r q (.error e)

variable {net} {address}

/-- A call keeps the counters of the agent, and it fails in no third way. -/
theorem exchanged_ending {request : Request} {agent : Agent} {n : Nat} {w : ω}
    {sent : List Traffic} {stop : Bool} {reply : Reply} {after : Scene ω}
    (h : Exchanged net address request agent n w sent stop reply after) :
    after.agent.map Agent.stats = some agent.stats ∧
      ((∃ response, reply = .ok response) ∨ ∃ e, reply = .error e ∧ e.isCallFailure = true) := by
  cases h with
  | answered => exact ⟨rfl, .inl ⟨_, rfl⟩⟩
  | abandoned => exact ⟨rfl, .inr ⟨_, rfl, rfl⟩⟩
  | @retried _ _ _ _ _ turn =>
    refine ⟨rfl, ?_⟩
    cases turn.remote.answer request with
    | ok response => exact .inl ⟨response, rfl⟩
    | error status => exact .inr ⟨_, rfl, rfl⟩

theorem ending_of_exchanged {request : Request} {agent : Agent} {n : Nat} {w : ω}
    {sent : List Traffic} {stop : Bool} {reply : Reply} {r q : Relay ω}
    (h : Exchanged net address request agent n w sent stop reply (q.registry.scene address))
    (hstats : (r.errors? address).getD 0 = agent.stats.currentErrors) :
    Ending net address r q reply := by
  obtain ⟨hafter, hreply⟩ := exchanged_ending h
  obtain ⟨agent', hagent', hsame⟩ := Option.map_eq_some_iff.1 hafter
  have herrors : q.errors? address = some ((r.errors? address).getD 0) := by
    rw [errors?, hstats, ← hsame]
    exact congrArg (Option.map _) hagent'
  obtain ⟨response, rfl⟩ | ⟨e, rfl, he⟩ := hreply
  · exact .answered response herrors
  · exact .failed he herrors

theorem ending_of_conversation {request : Request} {sent : List Traffic} {stop : Bool}
    {reply : Reply} {r q : Relay ω}
    (h : Conversation net address request (r.registry.scene address) sent stop reply
      (q.registry.scene address)) : Ending net address r q reply := by
  generalize hbefore : r.registry.scene address = before at h
  generalize hafter : q.registry.scene address = after at h
  cases h with
  | refused hconnect =>
    obtain ⟨rfl, hnew, -⟩ := Scene.mk.inj hbefore
    obtain ⟨-, hstill, -⟩ := Scene.mk.inj hafter
    exact .refused hnew hstill hconnect
  | created hconnect rest =>
    obtain ⟨-, hnew, -⟩ := Scene.mk.inj hbefore
    subst hafter
    exact ending_of_exchanged rest (by simp [errors?, hnew, Agent.create])
  | known rest =>
    obtain ⟨-, hknown, -⟩ := Scene.mk.inj hbefore
    subst hafter
    exact ending_of_exchanged rest (by simp [errors?, hknown])

end

section

variable (net : Network ω) (address : String) (request : Request) (r : Relay ω)

/-- A request that is taken from the queue leads to a call. -/
theorem submit_taken (haccepting : r.accepting = true) (hopen : r.registry.cancelled = false) :
    ∃ q : Registry ω, r.submit net address request =
        ((Queue.call net address request q).1,
          { r with registry := (Queue.call net address request q).2, started := true }) ∧
      ∀ other, q.scene other = r.registry.scene other := by
  cases hstarted : r.started with
  | true =>
    refine ⟨r.registry, ?_, fun _ => rfl⟩
    simp [submit, start, answer, Queue.handle, haccepting, hopen, hstarted]
  | false =>
    refine ⟨r.registry.log [Queue.startedEntry], ?_, fun _ => rfl⟩
    simp [submit, start, answer, Queue.handle, haccepting, hopen, hstarted, log]

theorem submit_turnedAway (h : r.accepting = false ∨ r.registry.cancelled = true) :
    ∃ q : Relay ω, r.submit net address request = (.error .shuttingDown, q) ∧
      q.events = r.events ∧ q.accepting = r.accepting ∧
      ∀ other, q.registry.agent? other = r.registry.agent? other := by
  cases haccepting : r.accepting with
  | false => exact ⟨r, by simp [submit, haccepting], rfl, haccepting, fun _ => rfl⟩
  | true =>
    have hcancelled : r.registry.cancelled = true := by simpa [haccepting] using h
    have hstart : r.start.registry.cancelled = true := by
      unfold start
      split <;> exact hcancelled
    refine ⟨r.start, by simp [submit, answer, haccepting, hstart], ?_⟩
    unfold start
    split <;> exact ⟨rfl, haccepting, fun _ => rfl⟩

theorem submit_ending :
    Ending net address r (r.submit net address request).2 (r.submit net address request).1 ∧
      (r.submit net address request).2.events = r.events ∧
      (r.submit net address request).2.accepting = r.accepting ∧
      ∀ other ≠ address, (r.submit net address request).2.registry.agent? other =
        r.registry.agent? other := by
  by_cases h : r.accepting = false ∨ r.registry.cancelled = true
  · obtain ⟨q, hsubmit, hevents, haccepting, hagents⟩ := submit_turnedAway net address request r h
    rw [hsubmit]
    exact ⟨.turnedAway h (hagents address), hevents, haccepting, fun other _ => hagents other⟩
  · obtain ⟨haccepting, hopen⟩ := not_or.1 h
    obtain ⟨q, hsubmit, hscene⟩ := submit_taken net address request r
      (by simpa using haccepting) (by simpa using hopen)
    rw [hsubmit]
    refine ⟨?_, rfl, rfl, fun other hother => ?_⟩
    · obtain ⟨sent, stop, hrules, -⟩ := Queue.call_conversation net address request q
      rw [hscene] at hrules
      exact ending_of_conversation hrules
    · exact (Queue.agent?_call_of_ne net q hother).trans (congrArg Scene.agent (hscene other))

/-- Where the first connection cannot be opened, the request ends in that very failure. -/
theorem submit_refused {e : Error} {w : ω} (haccepting : r.accepting = true)
    (hopen : r.registry.cancelled = false) (hnew : r.registry.agent? address = none)
    (hconnect : net.connect address r.registry.world = (some e, w)) :
    (r.submit net address request).1 = .error e ∧
      (r.submit net address request).2.registry.agent? address = none := by
  obtain ⟨q, hsubmit, hscene⟩ := submit_taken net address request r haccepting hopen
  obtain ⟨sent, stop, hrules, -⟩ := Queue.call_conversation net address request q
  rw [hscene, Registry.scene, hnew] at hrules
  obtain ⟨-, -, hreply, hafter⟩ := hrules.unique (.refused hconnect)
  rw [hsubmit]
  exact ⟨hreply, congrArg Scene.agent hafter⟩

end

/-! ### Accounting for a reply -/

section

variable (r : Relay ω) (machine : Machine) (operation : String)

theorem accountReply_of_unknown (reply : Reply)
    (h : r.registry.agent? machine.agentAddress = none) :
    r.accountReply machine operation reply = (reply, r) := by
  unfold accountReply
  split
  · exact settle_unknown r _ _ h
  · rfl

theorem errors?_accountReply_of_ne (reply : Reply) {other : String}
    (h : other ≠ machine.agentAddress) :
    (r.accountReply machine operation reply).2.errors? other = r.errors? other := by
  unfold accountReply
  split
  · exact errors?_settle_of_ne r _ _ h
  · rfl

theorem accepting_accountReply (reply : Reply) :
    (r.accountReply machine operation reply).2.accepting = r.accepting := by
  unfold accountReply
  split
  · exact accepting_settle r _ _
  · rfl

/-- All events of an exchange are about the machine of the agent. -/
theorem machine_of_mem_accountExchange {outcome : Except Error α} {s : Stats} {e : Event}
    (h : e ∈ (accountExchange machine operation outcome s).events) :
    e.machine = some machine.subject := by
  cases outcome <;> simp only [accountExchange] at h <;> split at h <;> simp_all <;> rfl

theorem news_accountReply_of_ne (reply : Reply) {other : String}
    (h : other ≠ machine.agentAddress) :
    (r.accountReply machine operation reply).2.news other = r.news other := by
  unfold accountReply
  split
  · exact news_settle r _ _ fun s e he =>
      news?_of_ne (machine_of_mem_accountExchange machine operation he) h
  · rfl

/-- A response is accounted for as it is, and nothing else becomes one. -/
theorem accountReply_eq_ok {reply : Reply} {response : Response}
    (h : (r.accountReply machine operation reply).1 = .ok response) : reply = .ok response := by
  cases hagent : r.registry.agent? machine.agentAddress with
  | none =>
    rw [accountReply_of_unknown r machine operation reply hagent] at h
    exact h
  | some agent =>
    unfold accountReply at h
    split at h
    · rw [(settle_known r reply (accountExchange machine operation reply) hagent).1] at h
      cases reply with
      | ok response' => exact h
      | error e => cases h
    · exact h

variable {n : Nat} (h : r.errors? machine.agentAddress = some n)

include h

/-- A response resets the counter; there is news if it was not zero. -/
theorem accountReply_answered (response : Response) :
    (r.accountReply machine operation (.ok response)).1 = .ok response ∧
      (r.accountReply machine operation (.ok response)).2.errors? machine.agentAddress = some 0 ∧
      (r.accountReply machine operation (.ok response)).2.news machine.agentAddress =
        r.news machine.agentAddress ++ if n = 0 then [] else [.resumed] := by
  obtain ⟨agent, hagent, rfl⟩ := Option.map_eq_some_iff.1 h
  obtain ⟨hresult, herrors, hpublished⟩ := settle_known r (.ok response)
    (accountExchange machine operation (.ok response)) hagent
  refine ⟨hresult, herrors, ?_⟩
  unfold news
  rw [accountReply, isAccounted, if_pos rfl, hpublished, List.filterMap_append]
  cases hn : agent.stats.currentErrors <;> simp [accountExchange, hn, news?_resumed]

/-- An error that speaks against the agent adds one to the counter; there is news if it was zero. -/
theorem accountReply_counted {e : Error} (hcounts : e.countsAgainstAgent = true) :
    (r.accountReply machine operation (.error e)).1 =
        .error (if n = 0 then .unreachable machine.agentAddress operation e
          else .stillUnreachable machine.agentAddress operation) ∧
      (r.accountReply machine operation (.error e)).2.errors? machine.agentAddress =
        some (n + 1) ∧
      (r.accountReply machine operation (.error e)).2.news machine.agentAddress =
        r.news machine.agentAddress ++ if n = 0 then [.unreachable] else [] := by
  obtain ⟨agent, hagent, rfl⟩ := Option.map_eq_some_iff.1 h
  obtain ⟨hresult, herrors, hpublished⟩ := settle_known r (.error e : Reply)
    (accountExchange machine operation (.error e)) hagent
  unfold news
  rw [accountReply, isAccounted, if_pos hcounts]
  refine ⟨hresult, herrors, ?_⟩
  rw [hpublished, List.filterMap_append]
  cases hn : agent.stats.currentErrors <;> simp [accountExchange, hn, news?_unreachable]

/-- A failed call speaks against the agent. -/
theorem accountReply_failed {e : Error} (he : e.isCallFailure = true) :
    (r.accountReply machine operation (.error e)).1 =
        .error (if n = 0 then .unreachable machine.agentAddress operation e
          else .stillUnreachable machine.agentAddress operation) ∧
      (r.accountReply machine operation (.error e)).2.errors? machine.agentAddress =
        some (n + 1) ∧
      (r.accountReply machine operation (.error e)).2.news machine.agentAddress =
        r.news machine.agentAddress ++ if n = 0 then [.unreachable] else [] :=
  accountReply_counted r machine operation h (Error.countsAgainstAgent_of_isCallFailure he)

end

end Relay

end AgentRelay
