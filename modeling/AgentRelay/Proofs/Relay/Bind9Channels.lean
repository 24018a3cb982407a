import AgentRelay.Proofs.Relay.StatsFrame

/-! The channels of BIND 9 apps. Whatever operations are carried out in between, the counter of a
channel is the number of answered calls on it that have failed since the last good one; the first of
them is returned and published in full, and the good one that ends them is published as well. Each
channel is counted for itself, be it that both are under one access point. -/
namespace AgentRelay.Relay

open Protocol

variable {ω : Type}

/-! ### Failures of a call -/

theorem rndcOutcome_good_iff (agent : String) (point : AccessPoint)
    (message : ForwardRndcCommandRsp) :
    failure? (rndcOutcome agent point message) = none ↔ succeeded message.status = true ∧
      ∃ inner, message.rndcResponse = some inner ∧ succeeded inner.status = true := by
  unfold rndcOutcome
  cases succeeded message.status with
  | false => simp [failure?]
  | true =>
    cases message.rndcResponse with
    | none => simp [failure?]
    | some inner => cases h : succeeded inner.status <;> simp [failure?, h]

theorem namedStatsOutcome_good_iff {α : Type} (decode : Json.Decoder α) (agent url : String)
    (message : ForwardToNamedStatsRsp) :
    failure? (namedStatsOutcome decode agent url message) = none ↔
      succeeded message.status = true ∧ ∃ inner, message.namedStatsResponse = some inner ∧
        succeeded inner.status = true ∧ ∃ a, Json.decodeText decode inner.response = .ok a := by
  unfold namedStatsOutcome
  cases succeeded message.status with
  | false => simp [failure?]
  | true =>
    cases message.namedStatsResponse with
    | none => simp [failure?]
    | some inner =>
      cases h : succeeded inner.status with
      | false => simp [failure?, h]
      | true =>
        cases hdecode : Json.decodeText decode inner.response <;>
          simp [failure?, h, hdecode, mapError_ok, mapError_error]

/-! ### Lines -/

/-- Where the failures of a channel are counted: with the agent, under the access point. -/
@[ext]
structure Line where
  agent : String
  key : Stats.Key
  channel : Channel
deriving DecidableEq

def counter (r : Relay ω) (line : Line) : Nat :=
  line.channel.counter (((r.statsOf line.agent).bind9? line.key).getD {})

theorem counter_of_find? {r q : Relay ω} {line : Line}
    (h : Ordered.find? line.key (q.statsOf line.agent).bundles =
      Ordered.find? line.key (r.statsOf line.agent).bundles) :
    q.counter line = r.counter line := by
  unfold counter Stats.bind9?
  rw [h]

theorem counter_of_bundles {r q : Relay ω} {line : Line}
    (h : (q.statsOf line.agent).bundles = (r.statsOf line.agent).bundles) :
    q.counter line = r.counter line := counter_of_find? (congrArg _ h)

theorem counter_of_agent? {r q : Relay ω} {line : Line}
    (h : q.registry.agent? line.agent = r.registry.agent? line.agent) :
    q.counter line = r.counter line :=
  counter_of_bundles (congrArg Stats.bundles (statsOf_congr h))

theorem Channel.counter_setCounter (channel other : Channel) (n : Nat)
    (c : Stats.Bind9Counters) : other.counter (channel.setCounter n c) =
      if other = channel then n else other.counter c := by
  cases channel <;> cases other <;> rfl

/-- Setting a counter is seen on its own line only. -/
theorem counter_updateBind9 (s : Stats) (key other : Stats.Key) (channel on : Channel) (n : Nat) :
    on.counter (((s.updateBind9 key (channel.setCounter n)).bind9? other).getD {}) =
      if other = key ∧ on = channel then n else on.counter ((s.bind9? other).getD {}) := by
  by_cases hkey : other = key
  · subst hkey
    simp [Stats.bind9?_updateBind9, Channel.counter_setCounter]
  · rw [if_neg fun h => hkey h.1]
    unfold Stats.bind9?
    rw [s.find?_updateBind9_of_ne _ hkey]

/-! ### Calls -/

/-- An answered call to a BIND 9 app. -/
structure Bind9Call where
  app : App
  point : AccessPoint
  channel : Channel
  operation : String
  /-- What has failed, if anything has. -/
  error : Option Error

def Bind9Call.line (call : Bind9Call) : Line :=
  ⟨call.app.machine.agentAddress, call.point.statsKey, call.channel⟩

/-- The call as which an operation reaches a BIND 9 app. -/
def bind9Call? (net : Network ω) : Forwarding → Relay ω → Option Bind9Call
  | .rndcCommand app command, r =>
    match app.accessPoint? .control with
    | none => none
    | some point =>
      match (r.submit net app.machine.agentAddress
        (.forwardRndcCommand (rndcRequest point command))).1.bind Response.forwardRndcCommand? with
      | .error _ => none
      | .ok message => some ⟨app, point, .rndc, rndcOperation,
          failure? (rndcOutcome app.machine.agentAddress point message)⟩
  | .namedStats decode app path, r =>
    match app.accessPoint? .statistics with
    | none => none
    | some point =>
      match (r.submit net app.machine.agentAddress
        (.forwardToNamedStats ⟨namedStatsUrl point path, some {}⟩)).1.bind
          Response.forwardToNamedStats? with
      | .error _ => none
      | .ok message => some ⟨app, point, .statistics, namedStatsOperation,
          failure? (namedStatsOutcome decode app.machine.agentAddress (namedStatsUrl point path)
            message)⟩
  | .hostState .., _ | .keaCommands .., _ | .textTail .., _ => none

def bind9Calls (net : Network ω) : List Forwarding → Relay ω → List Bind9Call
  | [], _ => []
  | f :: fs, r => (bind9Call? net f r).toList ++ bind9Calls net fs (forward net f r).2

/-- The channel of a BIND 9 app that an operation is for. -/
def Forwarding.channel? : Forwarding → Option Channel
  | .rndcCommand .. => some .rndc
  | .namedStats .. => some .statistics
  | .hostState .. | .keaCommands .. | .textTail .. => none

/-- Kea commands to the agent and the access point of a line. -/
def Forwarding.UsesKea (line : Line) : Forwarding → Prop
  | .keaCommands app _ _ => app.machine.agentAddress = line.agent ∧
    ∃ point, app.accessPoint? .control = some point ∧ point.statsKey = line.key
  | .hostState .. | .rndcCommand .. | .namedStats .. | .textTail .. => False

/-- What is published of a call before which `previous` others have failed. -/
def Bind9Call.events (call : Bind9Call) (previous : Nat) : List Event :=
  match call.error with
  | some e => if previous = 0 then [appFailedEvent call.app e] else []
  | none => if previous = 0 then [] else [appResumedEvent call.app]

/-- The error for the caller, which is the full one only at first. -/
def Bind9Call.reported (call : Bind9Call) (previous : Nat) : Option Error :=
  call.error.map fun e => if previous = 0 then e
    else .backendStillFailing call.app.machine.agentAddress call.operation "BIND9"

/-- The failed calls on a line since the last good one. -/
def failuresOn (line : Line) (history : List Bind9Call) : Nat :=
  ((history.filter (·.line = line)).reverse.takeWhile (·.error.isSome)).length

theorem failuresOn_concat (line : Line) (history : List Bind9Call) (call : Bind9Call) :
    failuresOn line (history ++ [call]) =
      if line = call.line then if call.error.isSome then failuresOn line history + 1 else 0
      else failuresOn line history := by
  by_cases hline : line = call.line
  · subst hline
    cases h : call.error <;> simp [failuresOn, h]
  · simp [failuresOn, hline, Ne.symm hline]

/-! ### Settling a call -/

section

variable {α : Type} (call : Bind9Call) {outcome : Except Error α}
  (herror : failure? outcome = call.error) (s : Stats)

include herror

theorem accountBind9_result : failure? (accountBind9 call.app call.point.statsKey call.channel
    call.operation outcome s).result =
      call.reported (call.channel.counter ((s.bind9? call.point.statsKey).getD {})) := by
  rw [Bind9Call.reported, ← herror]
  cases outcome <;> rfl

/-- All events of a call are about its app. -/
theorem accountBind9_events : (accountBind9 call.app call.point.statsKey call.channel
    call.operation outcome s).events.filter (·.app.isSome) =
      call.events (call.channel.counter ((s.bind9? call.point.statsKey).getD {})) := by
  rw [Bind9Call.events, ← herror]
  cases outcome <;> simp only [accountBind9, failure?, Nat.pos_iff_ne_zero] <;> split <;>
    simp_all [appFailedEvent, appResumedEvent]

theorem accountBind9_stats : (accountBind9 call.app call.point.statsKey call.channel
    call.operation outcome s).stats = s.updateBind9 call.point.statsKey (call.channel.setCounter
      (if call.error.isSome then call.channel.counter ((s.bind9? call.point.statsKey).getD {}) + 1
        else 0)) := by
  rw [← herror]
  cases outcome <;> rfl

theorem settleBind9_of_known {r : Relay ω}
    (h : (r.registry.agent? call.app.machine.agentAddress).isSome = true) :
    failure? (r.settleBind9 call.app call.point.statsKey call.channel call.operation outcome).1 =
        call.reported (r.counter call.line) ∧
      (r.settleBind9 call.app call.point.statsKey call.channel call.operation outcome).2.appEvents =
        r.appEvents ++ call.events (r.counter call.line) ∧
      ∀ line,
        (r.settleBind9 call.app call.point.statsKey call.channel call.operation
          outcome).2.counter line =
        if line = call.line then if call.error.isSome then r.counter line + 1 else 0
        else r.counter line := by
  obtain ⟨hresult, hstats, hevents⟩ := settle_of_known h outcome
    (accountBind9 call.app call.point.statsKey call.channel call.operation outcome)
  have hothers := (booked_settle call.app.machine.agentAddress outcome
    (accountBind9 call.app call.point.statsKey call.channel call.operation outcome) r).others
  unfold settleBind9
  refine ⟨?_, ?_, fun line => ?_⟩
  · rw [hresult, accountBind9_result call herror]
    rfl
  · rw [hevents, accountBind9_events call herror]
    rfl
  · by_cases hagent : line.agent = call.app.machine.agentAddress
    · rw [counter, hagent, hstats, accountBind9_stats call herror, counter_updateBind9]
      by_cases hline : line = call.line
      · subst hline
        simp [counter, Bind9Call.line]
      · rw [if_neg hline, if_neg fun h => hline (Line.ext hagent h.1 h.2), counter, hagent]
    · rw [if_neg fun hline => hagent (congrArg Line.agent hline)]
      exact counter_of_agent? (hothers _ hagent)

end

/-! ### One step -/

section

variable {net : Network ω} {f : Forwarding} {r : Relay ω}

/-- An operation that reaches a BIND 9 app ends in the settlement of its call, which finds all
counters and events of apps as they were. -/
theorem forward_of_bind9Call? {call : Bind9Call} (h : bind9Call? net f r = some call) :
    ∃ (α : Type) (outcome : Except Error α) (q : Relay ω), failure? outcome = call.error ∧
      (q.registry.agent? call.app.machine.agentAddress).isSome = true ∧
      (∀ other, (q.statsOf other).bundles = (r.statsOf other).bundles) ∧
      q.appEvents = r.appEvents ∧
      forward net f r =
        (failure? (q.settleBind9 call.app call.point.statsKey call.channel call.operation
            outcome).1,
          (q.settleBind9 call.app call.point.statsKey call.channel call.operation outcome).2) := by
  cases f with
  | hostState | keaCommands | textTail => cases h
  | rndcCommand app command =>
    simp only [bind9Call?] at h
    split at h
    · cases h
    · rename_i point hpoint
      split at h
      · cases h
      · rename_i message hmessage
        cases h
        obtain ⟨response, hreply, hresponse⟩ := exists_of_bind_eq_ok hmessage
        obtain ⟨-, hknown⟩ := roundTrip_answered rndcOperation hreply
        refine ⟨String, _, (r.roundTrip net app.machine rndcOperation (.forwardRndcCommand
            (rndcRequest point command))).2.log [⟨.debug, "rndc command answered",
              [("app", .text app.name), ("command", .text command)]⟩], rfl, hknown,
          bundles_roundTrip net app.machine rndcOperation _ r,
          appEvents_roundTrip net app.machine rndcOperation _ r, ?_⟩
        rw [forward, Forwarding.operation, perform_map,
          rndcCommand_answered hpoint hreply hresponse]
  | namedStats decode app path =>
    simp only [bind9Call?] at h
    split at h
    · cases h
    · rename_i point hpoint
      split at h
      · cases h
      · rename_i message hmessage
        cases h
        obtain ⟨response, hreply, hresponse⟩ := exists_of_bind_eq_ok hmessage
        obtain ⟨-, hknown⟩ := roundTrip_answered namedStatsOperation hreply
        refine ⟨_, _, _, rfl, hknown, bundles_roundTrip net app.machine namedStatsOperation _ r,
          appEvents_roundTrip net app.machine namedStatsOperation _ r, ?_⟩
        rw [forward, Forwarding.operation, perform_map,
          namedStats_answered hpoint hreply hresponse]

theorem reached_iff_of_exchange {address : String} {request : Request}
    {goOn : Reply → Relay ω → Option Error × Relay ω}
    (h : f.operation = .exchange address request goOn) :
    Reached net f r ↔ ∃ response, (r.submit net address request).1 = .ok response := by
  have hcontact : contact? net f r = some ⟨address, (r.submit net address request).1,
      ((r.submit net address request).2.registry.agent? address).isSome⟩ := by
    simp [contact?, h]
  exact reached_iff hcontact

/-- An operation for a channel reaches the app exactly when the agent has answered. -/
theorem isSome_bind9Call?_iff (h : f.channel? ≠ none) :
    (bind9Call? net f r).isSome = true ↔ Reached net f r := by
  cases f with
  | hostState | keaCommands | textTail => exact absurd rfl h
  | rndcCommand app command =>
    cases hpoint : app.accessPoint? .control with
    | none =>
      have hrefused : contact? net (.rndcCommand app command) r = none := by
        simp [contact?, Forwarding.operation, Operation.rndcCommand, hpoint, Operation.map]
      simp [bind9Call?, hpoint, not_reached_of_refused hrefused]
    | some point =>
      rw [reached_iff_of_exchange (by rw [Forwarding.operation, Operation.rndcCommand, hpoint]; rfl)]
      simp only [bind9Call?, hpoint]
      cases hreply : (r.submit net app.machine.agentAddress
        (.forwardRndcCommand (rndcRequest point command))).1 with
      | error e => simp [Except.bind]
      | ok response =>
        obtain ⟨message, hmessage⟩ := accepts_of_submit hreply
        simp [Except.bind, hmessage]
  | namedStats decode app path =>
    cases hpoint : app.accessPoint? .statistics with
    | none =>
      have hrefused : contact? net (.namedStats decode app path) r = none := by
        simp [contact?, Forwarding.operation, Operation.namedStats, hpoint, Operation.map]
      simp [bind9Call?, hpoint, not_reached_of_refused hrefused]
    | some point =>
      rw [reached_iff_of_exchange (by rw [Forwarding.operation, Operation.namedStats, hpoint]; rfl)]
      simp only [bind9Call?, hpoint]
      cases hreply : (r.submit net app.machine.agentAddress
        (.forwardToNamedStats ⟨namedStatsUrl point path, some {}⟩)).1 with
      | error e => simp [Except.bind]
      | ok response =>
        obtain ⟨message, hmessage⟩ := accepts_of_submit hreply
        simp [Except.bind, hmessage]

theorem counter_of_unreached (h : ¬Reached net f r) (line : Line) :
    (forward net f r).2.counter line = r.counter line := by
  by_cases hagent : line.agent = f.machine.agentAddress
  · exact counter_of_bundles (hagent ▸ bundles_of_unreached net r h)
  · exact counter_of_agent? (agent?_forward_of_ne net f r hagent)

/-- Apart from the calls on it, only Kea commands can change the counter of a line. -/
theorem counter_of_channel?_eq_none (h : f.channel? = none) {line : Line}
    (hkea : ¬f.UsesKea line) : (forward net f r).2.counter line = r.counter line := by
  by_cases hagent : line.agent = f.machine.agentAddress
  · refine counter_of_find? ?_
    rw [hagent]
    refine find?_bundles_of_ne net r fun point hpoint => ?_
    cases f with
    | hostState | textTail => cases hpoint
    | rndcCommand | namedStats => cases h
    | keaCommands app => exact fun hkey => hkea ⟨hagent.symm, point, hpoint, hkey.symm⟩
  · exact counter_of_agent? (agent?_forward_of_ne net f r hagent)

/-- What an answered call does: it is reported and published according to the counter of its line,
and changes that counter only. -/
theorem forward_bind9Call {call : Bind9Call} (h : bind9Call? net f r = some call) :
    (forward net f r).1 = call.reported (r.counter call.line) ∧
      (forward net f r).2.appEvents = r.appEvents ++ call.events (r.counter call.line) ∧
      ∀ line, (forward net f r).2.counter line =
        if line = call.line then if call.error.isSome then r.counter line + 1 else 0
        else r.counter line := by
  obtain ⟨α, outcome, q, herror, hknown, hbundles, hevents, hforward⟩ := forward_of_bind9Call? h
  have hcounter : ∀ line, q.counter line = r.counter line := fun line =>
    counter_of_bundles (hbundles line.agent)
  obtain ⟨hreported, hpublished, hcounters⟩ := settleBind9_of_known call herror hknown
  rw [hforward]
  refine ⟨?_, ?_, fun line => ?_⟩
  · rw [hreported, hcounter]
  · rw [hpublished, hcounter, hevents]
  · rw [hcounters, hcounter]

theorem counter_forward (net : Network ω) {line : Line} {history : List Bind9Call}
    (hkea : ¬f.UsesKea line) (h : r.counter line = failuresOn line history) :
    (forward net f r).2.counter line =
      failuresOn line (history ++ (bind9Call? net f r).toList) := by
  cases hcall : bind9Call? net f r with
  | some call =>
    obtain ⟨-, -, hcounter⟩ := forward_bind9Call hcall
    rw [hcounter, Option.toList_some, failuresOn_concat, h]
  | none =>
    rw [Option.toList_none, List.append_nil, ← h]
    by_cases hchannel : f.channel? = none
    · exact counter_of_channel?_eq_none hchannel hkea
    · refine counter_of_unreached (fun hreached => ?_) line
      rw [← isSome_bind9Call?_iff hchannel, hcall] at hreached
      cases hreached

end

/-! ### Runs -/

theorem counter_fresh (world : ω) (capacity : Nat) (line : Line) :
    (fresh world capacity).counter line = failuresOn line [] := by
  unfold counter
  cases line.channel <;> rfl

theorem counter_forwardAll (net : Network ω) {line : Line} {fs : List Forwarding}
    (hkea : ∀ f ∈ fs, ¬f.UsesKea line) {history : List Bind9Call} {r : Relay ω}
    (h : r.counter line = failuresOn line history) :
    (forwardAll net fs r).counter line = failuresOn line (history ++ bind9Calls net fs r) := by
  induction fs generalizing history r with
  | nil => simpa [bind9Calls, forwardAll] using h
  | cons f fs ih =>
    obtain ⟨hfirst, hrest⟩ := List.forall_mem_cons.1 hkea
    have hstep := ih hrest (counter_forward net hfirst h)
    rw [List.append_assoc] at hstep
    exact hstep

/-- After any operations without Kea commands to a line, its counter is the number of failed calls
on it since the last good one. A call is good exactly when the agent, the app and the body of the
reply are. The next one that is answered is published according to the counter before, reported in
full when that was zero, and seen on no other line. One that is not answered is seen on no line, and
nothing is published for an app. -/
theorem bind9_channels_of_run (net : Network ω) :
    (∀ world capacity fs line, (∀ f ∈ fs, ¬Forwarding.UsesKea line f) →
      (ran net world capacity fs).counter line =
        failuresOn line (bind9Calls net fs (fresh world capacity))) ∧
    (∀ f r call, bind9Call? net f r = some call →
      (forward net f r).1 = call.reported (r.counter call.line) ∧
      (forward net f r).2.appEvents = r.appEvents ++ call.events (r.counter call.line) ∧
      ∀ line ≠ call.line, (forward net f r).2.counter line = r.counter line) ∧
    (∀ f r, Forwarding.channel? f ≠ none →
      ((bind9Call? net f r).isSome = true ↔ Reached net f r) ∧
      (¬Reached net f r →
        (∀ line, (forward net f r).2.counter line = r.counter line) ∧
        (forward net f r).2.appEvents = r.appEvents)) ∧
    (∀ agent point message, failure? (rndcOutcome agent point message) = none ↔
      succeeded message.status = true ∧
        ∃ inner, message.rndcResponse = some inner ∧ succeeded inner.status = true) ∧
    ∀ (α : Type) (decode : Json.Decoder α) agent url message,
      failure? (namedStatsOutcome decode agent url message) = none ↔
        succeeded message.status = true ∧ ∃ inner, message.namedStatsResponse = some inner ∧
          succeeded inner.status = true ∧ ∃ a, Json.decodeText decode inner.response = .ok a := by
  refine ⟨fun world capacity fs line hkea =>
      counter_forwardAll net hkea (counter_fresh world capacity line),
    fun f r call hcall => ?_, fun f r hchannel => ⟨isSome_bind9Call?_iff hchannel,
      fun h => ⟨counter_of_unreached h, appEvents_forward_unreached h⟩⟩,
    rndcOutcome_good_iff, fun α => namedStatsOutcome_good_iff⟩
  obtain ⟨hreported, hpublished, hcounter⟩ := forward_bind9Call hcall
  exact ⟨hreported, hpublished, fun line hline => by rw [hcounter, if_neg hline]⟩

/-- Two replies without a status, and between them a call that fails on the way to the agent. -/
theorem bind9_channels_of_run_failing :
    (∀ f ∈ [.rndcCommand bind9App "status", .hostState "10.0.0.1" 8080,
        .rndcCommand bind9App "reload"],
      ¬Forwarding.UsesKea ⟨bind9App.machine.agentAddress, bind9Point.statsKey, .rndc⟩ f) ∧
    (ran (rndcNetwork {}) () 1 [.rndcCommand bind9App "status", .hostState "10.0.0.1" 8080,
        .rndcCommand bind9App "reload"]).counter
      ⟨bind9App.machine.agentAddress, bind9Point.statsKey, .rndc⟩ = 2 := by
  have hkea : ∀ f ∈ [.rndcCommand bind9App "status", .hostState "10.0.0.1" 8080,
      .rndcCommand bind9App "reload"],
      ¬Forwarding.UsesKea ⟨bind9App.machine.agentAddress, bind9Point.statsKey, .rndc⟩ f := by
    simp [Forwarding.UsesKea]
  exact ⟨hkea, (bind9_channels_of_run (rndcNetwork {})).1 () 1 _ _ hkea⟩

end AgentRelay.Relay
