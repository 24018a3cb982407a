import AgentRelay.Proofs.Relay.Books

/-! What is known once the agent has answered, and once it has not. A request leaves all counters as
they are, and what it is answered with fits it; the round trip then resets the counter of the agent.
An operation that was answered goes on to write for its app, and any other writes nothing more than
the counter of its agent. -/
namespace AgentRelay.Relay

open Queue (Conversation)

variable {ω α : Type}

/-! ### Events about apps -/

/-- The published events that are about an app; those about an agent itself are left out. -/
def appEvents (r : Relay ω) : List Event := r.events.filter (·.app.isSome)

/-! ### Requests -/

section

variable (net : Network ω) (address : String) (request : Request) (r : Relay ω)

theorem conversation_stats {net : Network ω} {address : String} {request : Request}
    {sent : List Traffic} {stop : Bool} {reply : Reply} {before after : Registry.Scene ω}
    (h : Conversation net address request before sent stop reply after) :
    (after.agent.map Agent.stats).getD {} = (before.agent.map Agent.stats).getD {} := by
  cases h with
  | refused => rfl
  | created _ rest =>
    rw [(exchanged_ending rest).1]
    rfl
  | known rest =>
    rw [(exchanged_ending rest).1]
    rfl

/-- A request is turned away, or it leads to a conversation with the agent. -/
theorem submit_conversation :
    (r.submit net address request).1 = .error .shuttingDown ∧
        (r.submit net address request).2.registry.agent? address = r.registry.agent? address ∨
      ∃ sent stop, Conversation net address request (r.registry.scene address) sent stop
        (r.submit net address request).1
        ((r.submit net address request).2.registry.scene address) := by
  by_cases h : r.accepting = false ∨ r.registry.cancelled = true
  · obtain ⟨q, hsubmit, -, -, hagents⟩ := submit_turnedAway net address request r h
    rw [hsubmit]
    exact .inl ⟨rfl, hagents address⟩
  · obtain ⟨haccepting, hopen⟩ := not_or.1 h
    obtain ⟨q, hsubmit, hscene⟩ := submit_taken net address request r
      (by simpa using haccepting) (by simpa using hopen)
    obtain ⟨sent, stop, hrules, -⟩ := Queue.call_conversation net address request q
    rw [hscene] at hrules
    rw [hsubmit]
    exact .inr ⟨sent, stop, hrules⟩

/-- A new agent starts with all counters at zero, as they were reported before. -/
theorem statsOf_submit (other : String) :
    (r.submit net address request).2.statsOf other = r.statsOf other := by
  by_cases hother : other = address
  · subst hother
    obtain ⟨-, hsame⟩ | ⟨sent, stop, hrules⟩ := submit_conversation net other request r
    · exact statsOf_congr hsame
    · exact conversation_stats hrules
  · obtain ⟨-, -, -, hothers⟩ := submit_ending net address request r
    exact statsOf_congr (hothers other hother)

variable {net address request r} {response : Response}
  (h : (r.submit net address request).1 = .ok response)

include h

theorem accepts_of_submit : request.Accepts response := by
  obtain ⟨hturned, -⟩ | ⟨sent, stop, hrules⟩ := submit_conversation net address request r
  · rw [h] at hturned
    cases hturned
  · rw [h] at hrules
    exact hrules.accepted.1

theorem isSome_agent?_of_submit :
    ((r.submit net address request).2.registry.agent? address).isSome = true := by
  obtain ⟨hending, -⟩ := submit_ending net address request r
  rw [h] at hending
  cases hending with
  | answered _ herrors => exact isSome_of_errors? herrors

end

/-! ### Settling with a known agent -/

section

variable {r : Relay ω} {address : String}
  (h : (r.registry.agent? address).isSome = true) (outcome : Except Error α)
  (account : Stats → Settlement α)

include h

theorem settle_of_known :
    (r.settle address outcome account).1 = (account (r.statsOf address)).result ∧
      (r.settle address outcome account).2.statsOf address =
        (account (r.statsOf address)).stats ∧
      (r.settle address outcome account).2.appEvents =
        r.appEvents ++ (account (r.statsOf address)).events.filter (·.app.isSome) := by
  obtain ⟨agent, hagent⟩ := Option.isSome_iff_exists.1 h
  obtain ⟨hresult, -, hevents⟩ := settle_known r outcome account hagent
  rw [(booked_settle address outcome account r).statsOf h, statsOf_of_agent? hagent, appEvents,
    hevents, List.filter_append]
  exact ⟨hresult, rfl, rfl⟩

end

/-! ### Round trips -/

/-- The reply that an operation goes on with, after it was accounted for. -/
def roundTrip (net : Network ω) (machine : Machine) (operation : String) (request : Request)
    (r : Relay ω) : Reply × Relay ω :=
  (r.submit net machine.agentAddress request).2.accountReply machine operation
    (r.submit net machine.agentAddress request).1

section

variable (net : Network ω) (machine : Machine) (operation : String) (request : Request)
  (r : Relay ω)

theorem appEvents_accountReply (reply : Reply) :
    (r.accountReply machine operation reply).2.appEvents = r.appEvents := by
  unfold accountReply
  split
  · cases hagent : r.registry.agent? machine.agentAddress with
    | none => rw [settle_unknown r _ _ hagent]
    | some agent =>
      obtain ⟨-, -, hevents⟩ := settle_of_known (by rw [hagent]; rfl) reply
        (accountExchange machine operation reply)
      rw [hevents]
      cases reply <;> simp only [accountExchange] <;> split <;>
        simp [agentResumedEvent, agentUnreachableEvent]
  · rfl

theorem appEvents_roundTrip :
    (r.roundTrip net machine operation request).2.appEvents = r.appEvents := by
  obtain ⟨-, hevents, -⟩ := submit_ending net machine.agentAddress request r
  exact (appEvents_accountReply ..).trans (congrArg (List.filter _) hevents)

theorem booked_roundTrip : ∃ n : Nat → Nat, Booked machine.agentAddress
    (fun s => { s with currentErrors := n s.currentErrors })
    (r.submit net machine.agentAddress request).2
    (r.roundTrip net machine operation request).2 := booked_accountReply ..

theorem bundles_roundTrip (other : String) :
    ((r.roundTrip net machine operation request).2.statsOf other).bundles =
      (r.statsOf other).bundles := by
  obtain ⟨n, h⟩ := booked_roundTrip net machine operation request r
  rw [← statsOf_submit net machine.agentAddress request r other]
  by_cases hother : other = machine.agentAddress
  · subst hother
    cases hagent : (r.submit net machine.agentAddress request).2.registry.agent?
        machine.agentAddress with
    | none => rw [h.statsOf_unknown hagent]
    | some agent => rw [h.statsOf (by rw [hagent]; rfl)]
  · rw [h.statsOf_of_ne hother]

variable {net machine request r} {response : Response}
  (h : (r.submit net machine.agentAddress request).1 = .ok response)

include h

theorem roundTrip_answered :
    (r.roundTrip net machine operation request).1 = .ok response ∧
      ((r.roundTrip net machine operation request).2.registry.agent?
        machine.agentAddress).isSome = true := by
  have hknown := isSome_agent?_of_submit h
  obtain ⟨agent, hagent⟩ := Option.isSome_iff_exists.1 hknown
  have herrors : (r.submit net machine.agentAddress request).2.errors? machine.agentAddress =
      some agent.stats.currentErrors := by rw [errors?, hagent]; rfl
  obtain ⟨hresult, herrors', -⟩ := accountReply_answered _ machine operation herrors response
  rw [roundTrip, h]
  exact ⟨hresult, isSome_of_errors? herrors'⟩

end

theorem roundTrip_unanswered {net : Network ω} {machine : Machine} (operation : String)
    {request : Request} {r : Relay ω} {e : Error}
    (h : (r.submit net machine.agentAddress request).1 = .error e) :
    ∃ e', (r.roundTrip net machine operation request).1 = .error e' := by
  cases hresult : (r.roundTrip net machine operation request).1 with
  | error e' => exact ⟨e', rfl⟩
  | ok response =>
    have hreply := accountReply_eq_ok _ machine operation hresult
    rw [h] at hreply
    cases hreply

/-! ### Answered operations -/

theorem perform_map {β : Type} (net : Network ω) (operation : Operation ω α) (g : α → β)
    (r : Relay ω) : (operation.map g).perform net r =
      (g (operation.perform net r).1, (operation.perform net r).2) := by
  cases operation <;> rfl

section

variable {net : Network ω} {app : App} {point : AccessPoint} {r : Relay ω} {response : Response}

theorem perform_roundTrip {machine : Machine} {operation : String} {request : Request}
    (goOn : Reply → Relay ω → α × Relay ω) :
    (Operation.roundTrip machine operation request goOn).perform net r =
      goOn (r.roundTrip net machine operation request).1
        (r.roundTrip net machine operation request).2 := rfl

theorem perform_answered {machine : Machine} {operation : String} {request : Request}
    (goOn : Reply → Relay ω → α × Relay ω)
    (h : (r.submit net machine.agentAddress request).1 = .ok response) :
    (Operation.roundTrip machine operation request goOn).perform net r =
      goOn (.ok response) (r.roundTrip net machine operation request).2 := by
  obtain ⟨hresult, -⟩ := roundTrip_answered operation h
  rw [perform_roundTrip, hresult]

theorem rndcCommand_answered {command : String} {message : Protocol.ForwardRndcCommandRsp}
    (hpoint : app.accessPoint? .control = some point)
    (h : (r.submit net app.machine.agentAddress
      (.forwardRndcCommand (rndcRequest point command))).1 = .ok response)
    (hmessage : response.forwardRndcCommand? = .ok message) :
    (Operation.rndcCommand app command).perform net r =
      ((r.roundTrip net app.machine rndcOperation
        (.forwardRndcCommand (rndcRequest point command))).2.log [⟨.debug, "rndc command answered",
          [("app", .text app.name), ("command", .text command)]⟩]).settleBind9 app point.statsKey
            .rndc rndcOperation (rndcOutcome app.machine.agentAddress point message) := by
  rw [Operation.rndcCommand, hpoint]
  refine (perform_answered _ h).trans ?_
  simp only [Except.bind, hmessage]
  rfl

theorem namedStats_answered {decode : Json.Decoder α} {path : String}
    {message : Protocol.ForwardToNamedStatsRsp}
    (hpoint : app.accessPoint? .statistics = some point)
    (h : (r.submit net app.machine.agentAddress
      (.forwardToNamedStats ⟨namedStatsUrl point path, some {}⟩)).1 = .ok response)
    (hmessage : response.forwardToNamedStats? = .ok message) :
    (Operation.namedStats decode app path).perform net r =
      (r.roundTrip net app.machine namedStatsOperation
        (.forwardToNamedStats ⟨namedStatsUrl point path, some {}⟩)).2.settleBind9 app
          point.statsKey .statistics namedStatsOperation
          (namedStatsOutcome decode app.machine.agentAddress (namedStatsUrl point path)
            message) := by
  rw [Operation.namedStats, hpoint]
  refine (perform_answered _ h).trans ?_
  simp only [Except.bind, hmessage]
  rfl

theorem keaCommands_answered {commands : List Kea.Command} {slots : List Kea.Slot}
    {message : Protocol.ForwardToKeaOverHttpRsp}
    (hpoint : app.accessPoint? .control = some point)
    (h : (r.submit net app.machine.agentAddress
      (.forwardToKeaOverHttp (keaRequest point.url commands))).1 = .ok response)
    (hmessage : response.forwardToKeaOverHttp? = .ok message) :
    (Operation.keaCommands app commands slots).perform net r =
      ((.ok (takeReply app point commands slots message (r.roundTrip net app.machine keaOperation
          (.forwardToKeaOverHttp (keaRequest point.url commands))).2).1.1,
        (takeReply app point commands slots message (r.roundTrip net app.machine keaOperation
          (.forwardToKeaOverHttp (keaRequest point.url commands))).2).1.2),
        (takeReply app point commands slots message (r.roundTrip net app.machine keaOperation
          (.forwardToKeaOverHttp (keaRequest point.url commands))).2).2) := by
  rw [Operation.keaCommands, hpoint]
  refine (perform_answered _ h).trans ?_
  simp only [Except.bind, hmessage]

end

/-! ### What an operation writes -/

/-- What is written after a request, when there is a response to it and when there is none. -/
theorem roundTrip_writes (net : Network ω) (machine : Machine) (operation : String)
    (request : Request) (r : Relay ω) {W : (Stats → Stats) → Prop}
    {goOn : Reply → Relay ω → α × Relay ω} (herror : ∀ e r, (goOn (.error e) r).2 = r)
    (hresponse : ∀ response r, request.Accepts response → ∃ f, W f ∧
      Booked machine.agentAddress f r (goOn (.ok response) r).2) :
    ∃ write, ∃ n : Nat → Nat,
      (∀ response, (r.submit net machine.agentAddress request).1 = .ok response → W write) ∧
      (∀ e, (r.submit net machine.agentAddress request).1 = .error e → write = id) ∧
      Booked machine.agentAddress (fun s => write { s with currentErrors := n s.currentErrors })
        (r.submit net machine.agentAddress request).2
        (goOn (r.roundTrip net machine operation request).1
          (r.roundTrip net machine operation request).2).2 := by
  obtain ⟨n, hbooked⟩ := booked_roundTrip net machine operation request r
  cases hreply : (r.submit net machine.agentAddress request).1 with
  | ok response =>
    obtain ⟨hresult, -⟩ := roundTrip_answered operation hreply
    obtain ⟨write, hwrite, hrest⟩ := hresponse response
      (r.roundTrip net machine operation request).2 (accepts_of_submit hreply)
    rw [hresult]
    exact ⟨write, n, fun _ _ => hwrite, fun _ h => (nomatch h), hbooked.trans hrest⟩
  | error e =>
    obtain ⟨e', hresult⟩ := roundTrip_unanswered operation hreply
    rw [hresult, herror]
    exact ⟨id, n, fun _ h => (nomatch h), fun _ _ => rfl, hbooked⟩

section

variable (net : Network ω) (f : Forwarding) (r : Relay ω)

/-- What an operation writes, if it is not refused. -/
theorem forward_writes :
    (contact? net f r = none ∧ (forward net f r).2 = r) ∨ ∃ request write, ∃ n : Nat → Nat,
      contact? net f r = some ⟨f.machine.agentAddress,
        (r.submit net f.machine.agentAddress request).1,
        ((r.submit net f.machine.agentAddress request).2.registry.agent?
          f.machine.agentAddress).isSome⟩ ∧
      (∀ response, (r.submit net f.machine.agentAddress request).1 = .ok response →
        f.Writes write) ∧
      (∀ e, (r.submit net f.machine.agentAddress request).1 = .error e → write = id) ∧
      Booked f.machine.agentAddress (fun s => write { s with currentErrors := n s.currentErrors })
        (r.submit net f.machine.agentAddress request).2 (forward net f r).2 := by
  have hwriting := f.writing (ω := ω)
  unfold forward contact?
  generalize (f.operation : Operation ω (Option Error)) = operation at *
  cases hwriting with
  | refused => exact .inl ⟨rfl, rfl⟩
  | @roundTrip request goOn herror hresponse =>
    obtain ⟨write, n, hrest⟩ := roundTrip_writes net f.machine f.title request r herror hresponse
    exact .inr ⟨request, write, n, rfl, hrest⟩

/-- The operation was sent, and the agent has answered. -/
def Reached : Prop := ∃ c, contact? net f r = some c ∧ c.answered = true

variable {net f r}

theorem not_reached_of_refused (h : contact? net f r = none) : ¬Reached net f r := by
  rintro ⟨c, hc, -⟩
  rw [h] at hc
  cases hc

theorem reached_iff {address : String} {reply : Reply} {known : Bool}
    (h : contact? net f r = some ⟨address, reply, known⟩) :
    Reached net f r ↔ ∃ response, reply = .ok response := by
  unfold Reached
  rw [h]
  cases reply <;> simp [Contact.answered]

/-- The counters of the agent after an operation: its own counter is changed somehow, and the others
only when the agent has answered. -/
theorem statsOf_forward (net : Network ω) (f : Forwarding) (r : Relay ω) :
    ∃ write, ∃ n : Nat → Nat, (Reached net f r → f.Writes write) ∧
      (¬Reached net f r → write = id) ∧
      (forward net f r).2.statsOf f.machine.agentAddress =
        write { r.statsOf f.machine.agentAddress with
          currentErrors := n (r.statsOf f.machine.agentAddress).currentErrors } := by
  obtain ⟨hcontact, hsame⟩ | ⟨request, write, n, hcontact, hok, herror, hbooked⟩ :=
    forward_writes net f r
  · have hnot := not_reached_of_refused hcontact
    exact ⟨id, id, fun h => absurd h hnot, fun _ => rfl, by rw [hsame]; rfl⟩
  · have hreached := reached_iff hcontact
    have hstats := statsOf_submit net f.machine.agentAddress request r f.machine.agentAddress
    cases hreply : (r.submit net f.machine.agentAddress request).1 with
    | ok response =>
      rw [← hstats]
      exact ⟨write, n, fun _ => hok response hreply,
        fun hnot => absurd (hreached.2 ⟨response, hreply⟩) hnot,
        hbooked.statsOf (isSome_agent?_of_submit hreply)⟩
    | error e =>
      have hnot : ¬Reached net f r := fun h => by
        obtain ⟨response, hresponse⟩ := hreached.1 h
        rw [hreply] at hresponse
        cases hresponse
      obtain rfl := herror e hreply
      rw [← hstats]
      cases hagent : (r.submit net f.machine.agentAddress request).2.registry.agent?
          f.machine.agentAddress with
      | none =>
        exact ⟨id, id, fun h => absurd h hnot, fun _ => rfl, hbooked.statsOf_unknown hagent⟩
      | some agent =>
        exact ⟨id, n, fun h => absurd h hnot, fun _ => rfl,
          hbooked.statsOf (by rw [hagent]; rfl)⟩

theorem agent?_forward_of_ne (net : Network ω) (f : Forwarding) (r : Relay ω) {other : String}
    (h : other ≠ f.machine.agentAddress) :
    (forward net f r).2.registry.agent? other = r.registry.agent? other := by
  obtain ⟨-, hsame⟩ | ⟨request, _, _, -, -, -, hbooked⟩ := forward_writes net f r
  · rw [hsame]
  · obtain ⟨-, -, -, hothers⟩ := submit_ending net f.machine.agentAddress request r
    exact (hbooked.others other h).trans (hothers other h)

theorem appEvents_forward_unreached (h : ¬Reached net f r) :
    (forward net f r).2.appEvents = r.appEvents := by
  obtain ⟨-, hforward⟩ | ⟨request, goOn, hcontinues, hcontact, hforward⟩ := forward_cases net f r
  · rw [hforward]
  · cases hreply : (r.submit net f.machine.agentAddress request).1 with
    | ok response => exact absurd ((reached_iff hcontact).2 ⟨response, hreply⟩) h
    | error e =>
      obtain ⟨e', hresult⟩ := roundTrip_unanswered f.title hreply
      have hevents := appEvents_roundTrip net f.machine f.title request r
      unfold roundTrip at hresult hevents
      rw [hforward, hresult, hcontinues.relay_error, hevents]

end

end AgentRelay.Relay
