import AgentRelay.Proofs.Relay.Bind9Channels
import AgentRelay.Proofs.Relay.DaemonErrors

/-! What is published of the daemons of a Kea app. An event tells that a counter has left zero or
returned to it, so the events of one counter alternate, and so do those about a daemon that has one
counter. The control agent has two, one for the failures of replies and of their parts, and one for
the elements that speak for it. Each of them alternates for itself; what is published of the control
agent is both, reply by reply. -/
namespace AgentRelay

/-- The daemon is the one that the app finds by its name. -/
def App.Finds (app : App) (daemon : Subject) : Prop :=
  (app.daemon? daemon.label).map Daemon.subject = some daemon

instance (app : App) (daemon : Subject) : Decidable (app.Finds daemon) :=
  inferInstanceAs (Decidable (_ = _))

namespace Relay

variable {ω : Type}

/-! ### News of a counter -/

/-- What is published of a counter that goes from one value to another. -/
def change (previous current : Nat) : List News :=
  if previous = 0 then if current = 0 then [] else [.unreachable]
  else if current = 0 then [.resumed] else []

theorem change_self (n : Nat) : change n n = [] := by
  by_cases h : n = 0 <;> simp [change, h]

/-- The news alternate, and the last are bad exactly while the counter is not zero. -/
structure Follows (counter : Nat) (news : List News) : Prop where
  alternating : Alternating news
  parity : news.length % 2 = 1 ↔ counter ≠ 0

theorem follows_nil : Follows 0 [] := ⟨fun i n hn => by simp at hn, by simp⟩

theorem Follows.change {previous : Nat} {news : List News} (h : Follows previous news)
    (current : Nat) : Follows current (news ++ change previous current) := by
  have hparity := h.parity
  unfold Relay.change
  by_cases hprevious : previous = 0 <;> by_cases hcurrent : current = 0 <;>
    simp only [hprevious, hcurrent, if_true, if_false, List.append_nil]
  · exact ⟨h.alternating, by omega⟩
  · exact ⟨h.alternating.concat (by simp; omega), by simp; omega⟩
  · exact ⟨h.alternating.concat (by simp; omega), by simp; omega⟩
  · exact ⟨h.alternating, by omega⟩

/-- The relay before and after each of the operations. -/
def steps (net : Network ω) : List Forwarding → Relay ω → List (Relay ω × Relay ω)
  | [], _ => []
  | f :: fs, r => (r, (forward net f r).2) :: steps net fs (forward net f r).2

/-- What is published of a counter in these steps. -/
def changes (counter : Relay ω → Nat) (steps : List (Relay ω × Relay ω)) : List News :=
  steps.flatMap fun step => change (counter step.1) (counter step.2)

theorem follows_changes (net : Network ω) (counter : Relay ω → Nat) (fs : List Forwarding)
    {r : Relay ω} {news : List News} (h : Follows (counter r) news) :
    Follows (counter (forwardAll net fs r)) (news ++ changes counter (steps net fs r)) := by
  induction fs generalizing r news with
  | nil => simpa [steps, changes, forwardAll] using h
  | cons f fs ih =>
    have hstep := ih (h.change (counter (forward net f r).2))
    rw [List.append_assoc] at hstep
    exact hstep

/-! ### News of a daemon -/

/-- What an event says of a daemon of an app. -/
def daemonNews? (app : App) (daemon : Subject) (e : Event) : Option News :=
  if e.app = some app.subject ∧ e.daemon = some daemon then
    if e.text = daemonFailed then some .unreachable
    else if e.text = daemonResumed then some .resumed
    else none
  else none

def daemonNews (r : Relay ω) (app : App) (daemon : Subject) : List News :=
  r.events.filterMap (daemonNews? app daemon)

section

variable (app : App) (daemon : Subject)

theorem news_failed (other : Subject) (details : Option String) :
    [daemonFailedEvent app other details].filterMap (daemonNews? app daemon) =
      if other = daemon then [.unreachable] else [] := by
  by_cases h : other = daemon <;> simp [daemonNews?, daemonFailedEvent, h]

theorem news_resumed (other : Subject) :
    [daemonResumedEvent app other].filterMap (daemonNews? app daemon) =
      if other = daemon then [.resumed] else [] := by
  by_cases h : other = daemon <;>
    simp [daemonNews?, daemonResumedEvent, daemonResumed, daemonFailed, h]

theorem filterMap_appEvents (events : List Event) :
    (events.filter (·.app.isSome)).filterMap (daemonNews? app daemon) =
      events.filterMap (daemonNews? app daemon) := by
  rw [List.filterMap_filter]
  refine congrArg (List.filterMap · events) (funext fun e => ?_)
  cases h : e.app with
  | none => simp [daemonNews?, h]
  | some _ => simp

theorem daemonNews_eq (r : Relay ω) :
    r.daemonNews app daemon = r.appEvents.filterMap (daemonNews? app daemon) :=
  (filterMap_appEvents app daemon r.events).symm

theorem news_controlAgentEvents (previous : Nat) (failures : List Error) :
    (controlAgentEvents app previous failures).filterMap (daemonNews? app daemon) =
      if controlAgentSubject app = daemon then
        change previous (nextCount previous failures.length) else [] := by
  cases failures with
  | nil =>
    by_cases hprevious : previous = 0
    · simp [controlAgentEvents, nextCount, change, hprevious]
    · simpa [controlAgentEvents, nextCount, change, hprevious, Nat.pos_iff_ne_zero]
        using news_resumed app daemon (controlAgentSubject app)
  | cons e failures =>
    by_cases hprevious : previous = 0
    · simpa [controlAgentEvents, nextCount, change, hprevious]
        using news_failed app daemon (controlAgentSubject app) _
    · simp [controlAgentEvents, nextCount, change, hprevious]

theorem finds_iff {name : String} {d : Daemon} (h : app.daemon? name = some d) :
    name = daemon.label ∧ app.Finds daemon ↔ d.subject = daemon := by
  constructor
  · rintro ⟨rfl, hfinds⟩
    simpa [App.Finds, h] using hfinds
  · rintro rfl
    have hname : d.name = name := by simpa using List.find?_some h
    exact ⟨hname.symm, by simp [App.Finds, Daemon.subject, hname, h]⟩

/-- Of all counters under a name, only that of the daemon is told of, and only if it is found. -/
theorem news_daemonEvents (name : String) (previous current : Nat) :
    (daemonEvents app name previous current).filterMap (daemonNews? app daemon) =
      if name = daemon.label ∧ app.Finds daemon then change previous current else [] := by
  unfold daemonEvents change
  cases hfound : app.daemon? name with
  | none =>
    have hnot : ¬(name = daemon.label ∧ app.Finds daemon) := by
      rintro ⟨rfl, hfinds⟩
      simp [App.Finds, hfound] at hfinds
    simp [hnot]
  | some d =>
    simp only [finds_iff app daemon hfound]
    by_cases hprevious : previous = 0 <;> by_cases hcurrent : current = 0
    · simp [hprevious, hcurrent]
    · simpa [hprevious, hcurrent] using news_failed app daemon d.subject none
    · simpa [hprevious, hcurrent] using news_resumed app daemon d.subject
    · simp [hprevious, hcurrent]

/-- What is published of a daemon when the counters of the app change. -/
def keaNews (old new : Stats.KeaCounters) : List News :=
  (if controlAgentSubject app = daemon then change old.controlAgent new.controlAgent else []) ++
    if app.Finds daemon then
      change (daemonCount old.daemons daemon.label) (daemonCount new.daemons daemon.label)
    else []

theorem keaNews_self (c : Stats.KeaCounters) : keaNews app daemon c c = [] := by
  simp [keaNews, change_self]

theorem news_replyEvents {tally : Tally} (h : Ordered.Sorted tally.daemons)
    (c : Stats.KeaCounters) :
    (replyEvents app tally c).filterMap (daemonNews? app daemon) =
      keaNews app daemon c (countReply tally c) := by
  rw [replyEvents, List.filterMap_append, news_controlAgentEvents, List.filterMap_flatMap]
  simp only [news_daemonEvents]
  refine congrArg _ ?_
  by_cases hfinds : app.Finds daemon
  · simp only [hfinds, and_true, if_true]
    rw [h.flatMap_eq daemon.label fun e => change (daemonCount c.daemons e.1)
        (nextCount (daemonCount c.daemons e.1) e.2),
      daemonCount, daemonCount, find?_countReply tally h]
    cases Ordered.find? daemon.label tally.daemons with
    | none => simp [change_self]
    | some count => rfl
  · simp [hfinds]

end

/-! ### One step -/

theorem appEvents_takeReply {r : Relay ω} {app : App} (point : AccessPoint)
    (commands : List Kea.Command) (slots : List Kea.Slot)
    (message : Protocol.ForwardToKeaOverHttpRsp)
    (h : (r.registry.agent? app.machine.agentAddress).isSome = true) :
    (takeReply app point commands slots message r).2.appEvents = r.appEvents ++
      (replyEvents app (replyTally point commands slots message)
        (r.keaCounters app point)).filter (·.app.isSome) := by
  obtain ⟨-, -, hevents⟩ := settle_of_known (r := r.log _) h (.ok ())
    (accountKea app point.statsKey (replyTally point commands slots message))
  exact hevents

theorem keaCounters_of_bundles {r q : Relay ω} {app : App} (point : AccessPoint)
    (h : (q.statsOf app.machine.agentAddress).bundles =
      (r.statsOf app.machine.agentAddress).bundles) :
    q.keaCounters app point = r.keaCounters app point := by
  unfold keaCounters Stats.kea?
  rw [h]

/-- An answer is published according to the counters before it. -/
theorem appEvents_answered {net : Network ω} {app : App} {point : AccessPoint}
    {commands : List Kea.Command} (slots : List Kea.Slot) {r : Relay ω}
    {message : Protocol.ForwardToKeaOverHttpRsp} (hpoint : app.accessPoint? .control = some point)
    (hanswer : (r.submit net app.machine.agentAddress
      (.forwardToKeaOverHttp (keaRequest point.url commands))).1 =
        .ok (.forwardToKeaOverHttp message)) :
    ((Operation.keaCommands app commands slots).perform net r).2.appEvents = r.appEvents ++
      (replyEvents app (replyTally point commands slots message)
        (r.keaCounters app point)).filter (·.app.isSome) := by
  obtain ⟨-, hknown⟩ := roundTrip_answered keaOperation hanswer
  have hcounters : (r.roundTrip net app.machine keaOperation
      (.forwardToKeaOverHttp (keaRequest point.url commands))).2.keaCounters app point =
        r.keaCounters app point :=
    keaCounters_of_bundles point (bundles_roundTrip net app.machine keaOperation _ r _)
  have hevents := appEvents_takeReply point commands slots message hknown
  rw [hcounters, appEvents_roundTrip] at hevents
  rw [keaCommands_answered hpoint hanswer rfl, hevents]

section

variable (net : Network ω) {app : App} {point : AccessPoint}
  (hpoint : app.accessPoint? .control = some point)

include hpoint

/-- Kea commands that the agent has not answered change no counter of the app and publish nothing of
it; otherwise the reply is counted, and published according to the counters before. -/
theorem forward_keaCommands (commands : List Kea.Command) (slots : List Kea.Slot) (r : Relay ω) :
    ((forward net (.keaCommands app commands slots) r).2.keaCounters app point =
        r.keaCounters app point ∧
      (forward net (.keaCommands app commands slots) r).2.appEvents = r.appEvents) ∨
    ∃ message,
      (r.submit net app.machine.agentAddress
        (.forwardToKeaOverHttp (keaRequest point.url commands))).1 =
          .ok (.forwardToKeaOverHttp message) ∧
      (forward net (.keaCommands app commands slots) r).2.keaCounters app point =
        countReply (replyTally point commands slots message) (r.keaCounters app point) ∧
      (forward net (.keaCommands app commands slots) r).2.appEvents = r.appEvents ++
        (replyEvents app (replyTally point commands slots message)
          (r.keaCounters app point)).filter (·.app.isSome) := by
  have hreached : Reached net (.keaCommands app commands slots) r ↔ ∃ response,
      (r.submit net app.machine.agentAddress
        (.forwardToKeaOverHttp (keaRequest point.url commands))).1 = .ok response :=
    reached_iff_of_exchange (by rw [Forwarding.operation, Operation.keaCommands, hpoint]; rfl)
  by_cases h : Reached net (.keaCommands app commands slots) r
  · obtain ⟨response, hreply⟩ := hreached.1 h
    obtain ⟨message, hmessage⟩ := accepts_of_submit hreply
    have hresponse : (.ok response : Reply) = .ok (.forwardToKeaOverHttp message) :=
      eq_ok_of_bind_forwardToKeaOverHttp? hmessage
    rw [hresponse] at hreply
    refine .inr ⟨message, hreply, ?_, ?_⟩ <;> rw [forward, Forwarding.operation, perform_map]
    · exact keaCounters_answered slots hpoint hreply
    · exact appEvents_answered slots hpoint hreply
  · exact .inl ⟨keaCounters_of_bundles point (bundles_of_unreached net r h),
      appEvents_forward_unreached h⟩

theorem daemonNews_keaCommands (daemon : Subject) (commands : List Kea.Command)
    (slots : List Kea.Slot) (r : Relay ω) :
    (forward net (.keaCommands app commands slots) r).2.daemonNews app daemon =
      r.daemonNews app daemon ++ keaNews app daemon (r.keaCounters app point)
        ((forward net (.keaCommands app commands slots) r).2.keaCounters app point) := by
  rw [daemonNews_eq, daemonNews_eq]
  obtain ⟨hcounters, hevents⟩ | ⟨message, -, hcounters, hevents⟩ :=
    forward_keaCommands net hpoint commands slots r
  · rw [hcounters, hevents, keaNews_self, List.append_nil]
  · rw [hcounters, hevents, List.filterMap_append, filterMap_appEvents,
      news_replyEvents app daemon (sorted_tally _)]

end

/-! ### Runs -/

/-- Calls with commands to an app, each with its slots. -/
def keaCalls (app : App) (calls : List (List Kea.Command × List Kea.Slot)) : List Forwarding :=
  calls.map fun call => .keaCommands app call.1 call.2

theorem daemonNews_keaCalls (net : Network ω) {app : App} {point : AccessPoint}
    (hpoint : app.accessPoint? .control = some point) (daemon : Subject)
    (calls : List (List Kea.Command × List Kea.Slot)) (r : Relay ω) :
    (forwardAll net (keaCalls app calls) r).daemonNews app daemon =
      r.daemonNews app daemon ++ (steps net (keaCalls app calls) r).flatMap fun step =>
        keaNews app daemon (step.1.keaCounters app point) (step.2.keaCounters app point) := by
  induction calls generalizing r with
  | nil => exact (List.append_nil _).symm
  | cons call calls ih =>
    have hstep := ih (forward net (.keaCommands app call.1 call.2) r).2
    rw [daemonNews_keaCommands net hpoint, List.append_assoc] at hstep
    exact hstep

/-- The failures of the control agent of an app. -/
def agentFailures (app : App) (point : AccessPoint) (r : Relay ω) : Nat :=
  (r.keaCounters app point).controlAgent

/-- The failures that elements report for a daemon. -/
def daemonFailures (app : App) (point : AccessPoint) (name : String) (r : Relay ω) : Nat :=
  daemonCount (r.daemonErrors app point) name

section

variable {app : App} {d : Daemon}

/-- The events of the control agent are about no other daemon of the app, be it of the same name. -/
theorem controlAgentSubject_ne (hlisted : d ∈ app.daemons)
    (h : app.daemon? controlAgent ≠ some d) : controlAgentSubject app ≠ d.subject := by
  unfold controlAgentSubject
  cases hfound : app.daemon? controlAgent with
  | none =>
    have hname := List.find?_eq_none.1 hfound d hlisted
    exact fun heq => hname (decide_eq_true (congrArg Subject.label heq).symm)
  | some other =>
    obtain ⟨id, name⟩ := other
    obtain ⟨id', name'⟩ := d
    intro heq
    cases heq
    exact h hfound

theorem keaNews_of_other (h : controlAgentSubject app ≠ d.subject) (old new : Stats.KeaCounters) :
    keaNews app d.subject old new = if app.Finds d.subject then
      change (daemonCount old.daemons d.name) (daemonCount new.daemons d.name) else [] := by
  rw [keaNews, if_neg h]
  rfl

theorem keaNews_of_controlAgent (h : app.daemon? controlAgent = some d)
    (old new : Stats.KeaCounters) : keaNews app d.subject old new =
      change old.controlAgent new.controlAgent ++
        change (daemonCount old.daemons controlAgent) (daemonCount new.daemons controlAgent) := by
  have hname : d.name = controlAgent := by simpa using List.find?_some h
  have hsubject : controlAgentSubject app = d.subject := by rw [controlAgentSubject, h]
  have hfinds : app.Finds d.subject := by simp [App.Finds, Daemon.subject, hname, h]
  rw [keaNews, if_pos hsubject, if_pos hfinds, Daemon.subject, hname]

end

/-- A Kea app with a daemon besides its control agent. -/
def listedApp : App := { keaApp with daemons := [⟨11, "dhcp4"⟩, ⟨13, controlAgent⟩] }

/-- A command to the control agent itself. -/
def agentCall : List Kea.Command × List Kea.Slot := ([⟨"version-get", [], none⟩], [.headers []])

def dhcp4Call : List Kea.Command × List Kea.Slot :=
  ([⟨"config-get", ["dhcp4"], none⟩], [.headers []])

/-- In any run of calls to an app, what is published of a daemon alternates and starts with a
failure, unless the daemon is the control agent. Of that, two counters are told, both in the course
of each call; what is published of either of them alternates and starts with a failure. -/
theorem daemon_news_of_run (net : Network ω) (world : ω) (capacity : Nat) (app : App)
    (point : AccessPoint) (d : Daemon) (calls : List (List Kea.Command × List Kea.Slot))
    (hpoint : app.accessPoint? .control = some point) (hlisted : d ∈ app.daemons) :
    (app.daemon? controlAgent ≠ some d →
      Alternating ((ran net world capacity (keaCalls app calls)).daemonNews app d.subject)) ∧
    (app.daemon? controlAgent = some d →
      (ran net world capacity (keaCalls app calls)).daemonNews app d.subject =
        ((steps net (keaCalls app calls) (fresh world capacity)).flatMap fun step =>
          change (agentFailures app point step.1) (agentFailures app point step.2) ++
          change (daemonFailures app point controlAgent step.1)
            (daemonFailures app point controlAgent step.2)) ∧
      Alternating (changes (agentFailures app point)
        (steps net (keaCalls app calls) (fresh world capacity))) ∧
      Alternating (changes (daemonFailures app point controlAgent)
        (steps net (keaCalls app calls) (fresh world capacity)))) := by
  have hnews := daemonNews_keaCalls net hpoint d.subject calls (fresh world capacity)
  have halternating : ∀ counter : Relay ω → Nat, counter (fresh world capacity) = 0 →
      Alternating (changes counter (steps net (keaCalls app calls) (fresh world capacity))) := by
    intro counter hzero
    exact (follows_changes net counter (keaCalls app calls) (hzero ▸ follows_nil)).alternating
  refine ⟨fun hother => ?_, fun hagent => ⟨?_, halternating _ rfl, halternating _ rfl⟩⟩
  · rw [ran, hnews]
    simp only [keaNews_of_other (controlAgentSubject_ne hlisted hother)]
    by_cases hfinds : app.Finds d.subject
    · simp only [if_pos hfinds]
      exact halternating (daemonFailures app point d.name) rfl
    · -- another daemon has the name, and the events are about that one
      simp only [if_neg hfinds]
      rw [List.flatMap_eq_nil_iff.2 fun _ _ => rfl]
      exact follows_nil.alternating
  · rw [ran, hnews]
    simp only [keaNews_of_controlAgent hagent]
    rfl

/-- Two replies that have failed as a whole, each with an element that has failed. -/
theorem daemon_news_of_run_failed :
    listedApp.accessPoint? .control = some keaPoint ∧
    (⟨11, "dhcp4"⟩ ∈ listedApp.daemons ∧ listedApp.daemon? controlAgent ≠ some ⟨11, "dhcp4"⟩ ∧
      Alternating ((ran (keaNetwork failedReply) () 1
        (keaCalls listedApp [agentCall, dhcp4Call])).daemonNews listedApp ⟨11, "dhcp4"⟩)) ∧
    (⟨13, controlAgent⟩ ∈ listedApp.daemons ∧
      listedApp.daemon? controlAgent = some ⟨13, controlAgent⟩ ∧
      (ran (keaNetwork failedReply) () 1
        (keaCalls listedApp [agentCall, dhcp4Call])).daemonNews listedApp ⟨13, controlAgent⟩ =
          change 0 1 ++ change 0 1 ++ (change 1 2 ++ change 1 1)) := by
  have hdhcp4 : (⟨11, "dhcp4"⟩ : Daemon) ∈ listedApp.daemons := by decide
  have hother : listedApp.daemon? controlAgent ≠ some ⟨11, "dhcp4"⟩ := by decide
  have hlisted : (⟨13, controlAgent⟩ : Daemon) ∈ listedApp.daemons := by decide
  have hagent : listedApp.daemon? controlAgent = some ⟨13, controlAgent⟩ := by decide
  obtain ⟨halternating, -⟩ := daemon_news_of_run (keaNetwork failedReply) () 1 listedApp keaPoint
    ⟨11, "dhcp4"⟩ [agentCall, dhcp4Call] rfl hdhcp4
  obtain ⟨-, htwo⟩ := daemon_news_of_run (keaNetwork failedReply) () 1 listedApp keaPoint
    ⟨13, controlAgent⟩ [agentCall, dhcp4Call] rfl hlisted
  obtain ⟨hnews, -⟩ := htwo hagent
  exact ⟨rfl, ⟨hdhcp4, hother, halternating hother⟩, hlisted, hagent, hnews⟩

/-- One reply fails as a whole and with an element: the failure of the control agent is published
twice. -/
theorem controlAgent_failed_twice : ∃ d ∈ listedApp.daemons,
    ¬Alternating ((ran (keaNetwork failedReply) () 1
      (keaCalls listedApp [agentCall])).daemonNews listedApp d.subject) := by
  refine ⟨⟨13, controlAgent⟩, by decide, fun h => ?_⟩
  have hsecond := (h 1 .unreachable rfl).1 rfl
  cases hsecond

end Relay

end AgentRelay
