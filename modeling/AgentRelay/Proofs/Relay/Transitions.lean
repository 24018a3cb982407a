import AgentRelay.Proofs.Relay.DaemonNews
import AgentRelay.Proofs.Relay.ReplyParts

/-! What is published when the counters of a Kea app change. A reply moves many counters at once, and
each of them that leaves zero or returns to it has one event, the control agent's first and then
those of the daemons by name; the counter of a daemon that the app does not list has none. So a reply
tells of exactly the transitions, and over a run the events of a single counter alternate. -/
namespace AgentRelay.Relay

variable {ω : Type}

/-! ### Counters -/

/-- The counters of a Kea app: that of its control agent, and one for each name of a daemon. The
elements that speak for the control agent have a counter of the second kind. -/
inductive Counter where
  | agent
  | daemon (name : String)
deriving DecidableEq

namespace Counter

def value (c : Stats.KeaCounters) : Counter → Nat
  | .agent => c.controlAgent
  | .daemon name => daemonCount c.daemons name

/-- Whom the events of a counter are about. There are none about a daemon that is not listed, while
a control agent that is not listed has no id. -/
def subject? (app : App) : Counter → Option Subject
  | .agent => some (((app.daemon? controlAgent).map Daemon.subject).getD ⟨0, controlAgent⟩)
  | .daemon name => (app.daemon? name).map Daemon.subject

/-- What is added to the bad news of a counter. -/
def details (failures : List Error) : Counter → Option String
  | .agent => some ("\n".intercalate (failures.map Error.message))
  | .daemon _ => none

/-- The order in which the events of a reply are published. -/
def Precedes : Counter → Counter → Prop
  | .agent, .daemon _ => True
  | .daemon first, .daemon second => first < second
  | _, .agent => False

theorem Precedes.ne {counter other : Counter} (h : counter.Precedes other) : counter ≠ other := by
  rintro rfl
  cases counter with
  | agent => exact h
  | daemon name => exact String.lt_irrefl name h

end Counter

/-- The event for a counter that has left zero or returned to it. -/
inductive Crosses (app : App) (failures : List Error) (counter : Counter) (previous current : Nat) :
    Event → Prop
  | failed {subject : Subject} (hsubject : counter.subject? app = some subject)
      (hprevious : previous = 0) (hcurrent : current ≠ 0) :
      Crosses app failures counter previous current
        (daemonFailedEvent app subject (counter.details failures))
  | resumed {subject : Subject} (hsubject : counter.subject? app = some subject)
      (hprevious : previous ≠ 0) (hcurrent : current = 0) :
      Crosses app failures counter previous current (daemonResumedEvent app subject)

/-- What is published when the counters change: the events, each with the counter it is for. -/
structure Told (app : App) (failures : List Error) (old new : Stats.KeaCounters)
    (told : List (Counter × Event)) : Prop where
  ordered : told.Pairwise (·.1.Precedes ·.1)
  mem_iff : ∀ counter event, (counter, event) ∈ told ↔
    Crosses app failures counter (counter.value old) (counter.value new) event

/-! ### The events of one counter -/

/-- The events of a counter, in the order in which they are published. -/
def eventsOf (counter : Counter) (told : List (Counter × Event)) : List Event :=
  (told.filter (·.1 = counter)).map Prod.snd

/-- What the text of an event says. -/
def News.daemonText : News → String
  | .unreachable => daemonFailed
  | .resumed => daemonResumed

section

variable {app : App} {failures : List Error} {counter : Counter} {previous current : Nat}

theorem eventsOf_append (counter : Counter) (told later : List (Counter × Event)) :
    eventsOf counter (told ++ later) = eventsOf counter told ++ eventsOf counter later := by
  rw [eventsOf, List.filter_append, List.map_append]
  rfl

theorem eventsOf_of_not_mem {told : List (Counter × Event)} (h : ∀ e, (counter, e) ∉ told) :
    eventsOf counter told = [] := by
  rw [eventsOf, List.map_eq_nil_iff, List.filter_eq_nil_iff]
  rintro ⟨_, e⟩ hmem hcounter
  obtain rfl := of_decide_eq_true hcounter
  exact h e hmem

/-- A counter has no more than one event in a list that is ordered. -/
theorem eventsOf_of_mem {told : List (Counter × Event)} {e : Event}
    (hordered : told.Pairwise (·.1.Precedes ·.1)) (h : (counter, e) ∈ told) :
    eventsOf counter told = [e] := by
  obtain ⟨before, after, rfl⟩ := List.append_of_mem h
  obtain ⟨-, hafter, hbefore⟩ := List.pairwise_append.1 hordered
  have hnone : eventsOf counter before = [] := eventsOf_of_not_mem fun e' he' =>
    (hbefore _ he' _ List.mem_cons_self).ne rfl
  have hnone' : eventsOf counter after = [] := eventsOf_of_not_mem fun e' he' =>
    ((List.pairwise_cons.1 hafter).1 _ he').ne rfl
  rw [eventsOf_append, hnone, List.nil_append, ← List.singleton_append, eventsOf_append, hnone']
  simp [eventsOf]

theorem Crosses.text {e : Event} (h : Crosses app failures counter previous current e) :
    change previous current = [if previous = 0 then .unreachable else .resumed] ∧
      e.text = (if previous = 0 then News.unreachable else .resumed).daemonText := by
  cases h with
  | failed _ hprevious hcurrent => simp [change, hprevious, hcurrent]; rfl
  | resumed _ hprevious hcurrent => simp [change, hprevious, hcurrent]; rfl

/-- What a reply tells of a counter is the news of its change. -/
theorem Told.texts {old new : Stats.KeaCounters} {told : List (Counter × Event)}
    (h : Told app failures old new told) {subject : Subject}
    (hsubject : counter.subject? app = some subject) :
    (eventsOf counter told).map Event.text =
      (change (counter.value old) (counter.value new)).map News.daemonText := by
  by_cases hcrosses : ∃ e, Crosses app failures counter (counter.value old) (counter.value new) e
  · obtain ⟨e, he⟩ := hcrosses
    obtain ⟨hchange, htext⟩ := he.text
    rw [eventsOf_of_mem h.ordered ((h.mem_iff counter e).2 he), hchange]
    simp [htext]
  · rw [eventsOf_of_not_mem fun e hmem => hcrosses ⟨e, (h.mem_iff counter e).1 hmem⟩]
    unfold change
    split_ifs with hprevious hcurrent hcurrent
    · rfl
    · exact absurd ⟨_, .failed hsubject hprevious hcurrent⟩ hcrosses
    · exact absurd ⟨_, .resumed hsubject hprevious hcurrent⟩ hcrosses
    · rfl

end

/-! ### One reply -/

theorem nextCount_eq_zero_iff {previous count : Nat} :
    nextCount previous count = 0 ↔ count = 0 := by
  unfold nextCount
  split <;> omega

section

variable (app : App) (failures : List Error)

theorem subject?_agent : Counter.agent.subject? app = some (controlAgentSubject app) := by
  unfold Counter.subject? controlAgentSubject
  cases app.daemon? controlAgent <;> rfl

theorem mem_controlAgentEvents (previous : Nat) (event : Event) :
    event ∈ controlAgentEvents app previous failures ↔
      Crosses app failures .agent previous (nextCount previous failures.length) event := by
  have hsubject := subject?_agent app
  have hzero : nextCount previous failures.length = 0 ↔ failures = [] :=
    nextCount_eq_zero_iff.trans List.length_eq_zero_iff
  unfold controlAgentEvents
  constructor
  · intro h
    split_ifs at h with hfailures hprevious hprevious
    · obtain rfl := List.mem_singleton.1 h
      exact .failed hsubject hprevious (hzero.not.2 hfailures)
    · cases h
    · obtain rfl := List.mem_singleton.1 h
      exact .resumed hsubject (Nat.ne_of_gt hprevious) (hzero.2 (Decidable.not_not.1 hfailures))
    · cases h
  · intro h
    cases h with
    | failed hsome hprevious hcurrent =>
      obtain rfl := Option.some.inj (hsubject.symm.trans hsome)
      rw [if_pos (hzero.not.1 hcurrent), if_pos hprevious]
      exact List.mem_singleton_self _
    | resumed hsome hprevious hcurrent =>
      obtain rfl := Option.some.inj (hsubject.symm.trans hsome)
      rw [if_neg (not_not_intro (hzero.1 hcurrent)), if_pos (Nat.pos_of_ne_zero hprevious)]
      exact List.mem_singleton_self _

theorem mem_daemonEvents (name : String) (previous current : Nat) (event : Event) :
    event ∈ daemonEvents app name previous current ↔
      Crosses app failures (.daemon name) previous current event := by
  unfold daemonEvents
  constructor
  · intro h
    split at h
    · cases h
    · rename_i hsame
      split at h
      · cases h
      · rename_i daemon hfound
        have hsubject : (Counter.daemon name).subject? app = some daemon.subject := by
          rw [Counter.subject?, hfound]
          rfl
        split_ifs at h with hcurrent
        · obtain rfl := List.mem_singleton.1 h
          exact .resumed hsubject (fun hprevious => hsame (by simp [hprevious, hcurrent])) hcurrent
        · obtain rfl := List.mem_singleton.1 h
          exact .failed hsubject (by simpa [hcurrent] using hsame) hcurrent
  · intro h
    cases h with
    | failed hsome hprevious hcurrent =>
      obtain ⟨daemon, hfound, rfl⟩ := Option.map_eq_some_iff.1 hsome
      simp [hprevious, hcurrent, hfound, Counter.details]
    | resumed hsome hprevious hcurrent =>
      obtain ⟨daemon, hfound, rfl⟩ := Option.map_eq_some_iff.1 hsome
      simp [hprevious, hcurrent, hfound]

end

/-- The events of a reply, each with the counter it is for. -/
def tellings (app : App) (tally : Tally) (c : Stats.KeaCounters) : List (Counter × Event) :=
  (controlAgentEvents app c.controlAgent tally.failures).map (Counter.agent, ·) ++
    tally.daemons.flatMap fun (name, count) =>
      let previous := daemonCount c.daemons name
      (daemonEvents app name previous (nextCount previous count)).map (Counter.daemon name, ·)

section

variable (app : App) (tally : Tally) (c : Stats.KeaCounters)

theorem map_tellings : (tellings app tally c).map Prod.snd = replyEvents app tally c := by
  simp [tellings, replyEvents, List.map_flatMap, Function.comp_def]

theorem mem_tellings_agent (event : Event) : (Counter.agent, event) ∈ tellings app tally c ↔
    event ∈ controlAgentEvents app c.controlAgent tally.failures := by
  simp [tellings]

theorem mem_tellings_daemon (name : String) (event : Event) :
    (Counter.daemon name, event) ∈ tellings app tally c ↔ ∃ count, (name, count) ∈ tally.daemons ∧
      event ∈ daemonEvents app name (daemonCount c.daemons name)
        (nextCount (daemonCount c.daemons name) count) := by
  simp [tellings]

theorem length_controlAgentEvents_le (previous : Nat) (failures : List Error) :
    (controlAgentEvents app previous failures).length ≤ 1 := by
  unfold controlAgentEvents
  split_ifs <;> simp

theorem length_daemonEvents_le (name : String) (previous current : Nat) :
    (daemonEvents app name previous current).length ≤ 1 := by
  unfold daemonEvents
  split
  · simp
  · split
    · simp
    · split <;> simp

/-- No more than one event is in order, whatever the order is. -/
theorem pairwise_of_length_le_one (counter : Counter) {events : List Event}
    (h : events.length ≤ 1) : (events.map (counter, ·)).Pairwise (·.1.Precedes ·.1) := by
  match events, h with
  | [], _ => exact .nil
  | [_], _ => exact List.pairwise_singleton _ _

theorem pairwise_tellings (h : Ordered.Sorted tally.daemons) :
    (tellings app tally c).Pairwise (·.1.Precedes ·.1) := by
  refine List.pairwise_append.2 ⟨?_, List.pairwise_flatMap.2 ⟨?_, ?_⟩, ?_⟩
  · exact pairwise_of_length_le_one .agent (length_controlAgentEvents_le ..)
  · rintro ⟨name, count⟩ -
    exact pairwise_of_length_le_one (.daemon name) (length_daemonEvents_le ..)
  · refine h.imp fun {first second} hlt => ?_
    intro x hx y hy
    obtain ⟨_, -, rfl⟩ := List.mem_map.1 hx
    obtain ⟨_, -, rfl⟩ := List.mem_map.1 hy
    exact hlt
  · intro x hx y hy
    obtain ⟨_, -, rfl⟩ := List.mem_map.1 hx
    obtain ⟨_, -, hy⟩ := List.mem_flatMap.1 hy
    obtain ⟨_, -, rfl⟩ := List.mem_map.1 hy
    trivial

/-- A reply tells of the transitions of all counters, and of nothing else. -/
theorem told_tellings (h : Ordered.Sorted tally.daemons) :
    Told app tally.failures c (countReply tally c) (tellings app tally c) := by
  refine ⟨pairwise_tellings app tally c h, fun counter event => ?_⟩
  cases counter with
  | agent =>
    rw [mem_tellings_agent, mem_controlAgentEvents]
    rfl
  | daemon name =>
    have hcount : daemonCount (countReply tally c).daemons name =
        (Ordered.find? name tally.daemons).elim (daemonCount c.daemons name)
          (nextCount (daemonCount c.daemons name)) := by
      rw [daemonCount, find?_countReply tally h]
      cases Ordered.find? name tally.daemons <;> rfl
    rw [mem_tellings_daemon, Counter.value, Counter.value, hcount]
    simp only [h.mem_iff, mem_daemonEvents app tally.failures]
    cases Ordered.find? name tally.daemons with
    | none =>
      -- the reply says nothing of the daemon, and its counter stays where it is
      refine iff_of_false (by simp) fun hcrosses => ?_
      cases hcrosses with
      | failed _ hprevious hcurrent => exact hcurrent hprevious
      | resumed _ hprevious hcurrent => exact hprevious hcurrent
    | some count =>
      simp only [Option.some.injEq, exists_eq_left', Option.elim_some]

variable {app} {failures : List Error}

theorem Crosses.app_isSome {counter : Counter} {previous current : Nat} {e : Event}
    (h : Crosses app failures counter previous current e) : e.app.isSome = true := by
  cases h <;> rfl

theorem filter_told {old new : Stats.KeaCounters} {told : List (Counter × Event)}
    (h : Told app failures old new told) :
    (told.map Prod.snd).filter (·.app.isSome) = told.map Prod.snd := by
  refine List.filter_eq_self.2 fun e he => ?_
  obtain ⟨⟨counter, _⟩, hmem, rfl⟩ := List.mem_map.1 he
  exact ((h.mem_iff counter _).1 hmem).app_isSome

end

/-! ### One operation -/

/-- The errors of a result: that of the batch, then those of its entries. -/
def KeaResult.failures (result : KeaResult) : List Error :=
  result.error.toList ++ result.commandErrors.filterMap id

/-- The operation is for another agent or for another access point. -/
def Forwarding.Apart (f : Forwarding) (app : App) (point : AccessPoint) : Prop :=
  f.machine.agentAddress = app.machine.agentAddress →
    ∀ other, f.point? = some other → other.statsKey ≠ point.statsKey

section

variable (net : Network ω) (app : App) (point : AccessPoint)

/-- What an operation publishes of the counters of an app. -/
inductive Tells (r : Relay ω) : Forwarding → List (Counter × Event) → Prop
  /-- A call that the agent has answered publishes what its reply tells. -/
  | answered {commands : List Kea.Command} {slots outputs : List Kea.Slot} {result : KeaResult}
      {q : Relay ω} {told : List (Counter × Event)}
      (hperform : (Operation.keaCommands app commands slots).perform net r =
        ((.ok result, outputs), q))
      (hevents : q.appEvents = r.appEvents ++ told.map Prod.snd)
      (htold : Told app result.failures (r.keaCounters app point) (q.keaCounters app point) told) :
      Tells r (.keaCommands app commands slots) told
  /-- A call that it has not answered publishes nothing of an app. -/
  | unanswered {commands : List Kea.Command} {slots outputs : List Kea.Slot} {e : Error}
      {q : Relay ω}
      (hperform : (Operation.keaCommands app commands slots).perform net r =
        ((.error e, outputs), q))
      (hevents : q.appEvents = r.appEvents)
      (hcounters : q.keaCounters app point = r.keaCounters app point) :
      Tells r (.keaCommands app commands slots) []
  /-- What other operations publish is of other counters. -/
  | apart {f : Forwarding} (hapart : f.Apart app point)
      (hcounters : (forward net f r).2.keaCounters app point = r.keaCounters app point) :
      Tells r f []

/-- What operations publish of the counters of an app, one after the other. -/
inductive TellsAll : List Forwarding → Relay ω → List (Counter × Event) → Prop
  | nil {r : Relay ω} : TellsAll [] r []
  | cons {f : Forwarding} {fs : List Forwarding} {r : Relay ω}
      {told later : List (Counter × Event)} (h : Tells net app point r f told)
      (hrest : TellsAll fs (forward net f r).2 later) : TellsAll (f :: fs) r (told ++ later)

end

section

variable {net : Network ω} {app : App} {point : AccessPoint} {r : Relay ω}

theorem failures_takeReply (url : String) (status : Option Protocol.Status)
    (outcomes : List (Except Error Kea.Slot)) :
    KeaResult.failures ⟨batchError url status, outcomes.map failure?⟩ =
      (Tally.of (batchError url status) outcomes).failures := by
  rw [KeaResult.failures, Tally.of, List.filterMap_map]
  rfl

theorem keaCounters_of_apart {f : Forwarding} (hapart : f.Apart app point) :
    (forward net f r).2.keaCounters app point = r.keaCounters app point := by
  by_cases haddress : f.machine.agentAddress = app.machine.agentAddress
  · have hkey : ∀ other, f.point? = some other → point.statsKey ≠ other.statsKey :=
      fun other hother => (hapart haddress other hother).symm
    have hbundle := find?_bundles_of_ne net r hkey
    rw [haddress] at hbundle
    unfold keaCounters Stats.kea?
    rw [hbundle]
  · have hagent := agent?_forward_of_ne net f r (Ne.symm haddress)
    rw [keaCounters, statsOf_congr hagent, keaCounters]

variable (hpoint : app.accessPoint? .control = some point)

include hpoint

theorem tells_of_answer {commands : List Kea.Command} (slots : List Kea.Slot)
    {message : Protocol.ForwardToKeaOverHttpRsp}
    (hanswer : (r.submit net app.machine.agentAddress
      (.forwardToKeaOverHttp (keaRequest point.url commands))).1 =
        .ok (.forwardToKeaOverHttp message)) :
    ∃ result outputs q told,
      (Operation.keaCommands app commands slots).perform net r = ((.ok result, outputs), q) ∧
      q.appEvents = r.appEvents ++ told.map Prod.snd ∧
      Told app result.failures (r.keaCounters app point) (q.keaCounters app point) told := by
  obtain ⟨q, hperform⟩ := keaCommands_reply slots hpoint hanswer
  have hcounters := keaCounters_answered slots hpoint hanswer
  have hevents := appEvents_answered slots hpoint hanswer
  rw [hperform] at hcounters hevents
  have htold := told_tellings app (replyTally point commands slots message)
    (r.keaCounters app point) (sorted_tally _)
  rw [← map_tellings, filter_told htold] at hevents
  refine ⟨_, _, q, _, hperform, hevents, ?_⟩
  rw [failures_takeReply, hcounters]
  exact htold

/-- Every call of the app tells something, if only nothing. -/
theorem exists_tells_keaCommands (commands : List Kea.Command) (slots : List Kea.Slot) :
    ∃ told, Tells net app point r (.keaCommands app commands slots) told := by
  cases hperform : (Operation.keaCommands app commands slots).perform net r with
  | mk outcome q =>
    obtain ⟨reply, outputs⟩ := outcome
    cases reply with
    | ok result =>
      obtain ⟨point', message, hpoint', hanswer, -⟩ := keaCommands_eq_ok hperform
      obtain rfl := Option.some.inj (hpoint'.symm.trans hpoint)
      obtain ⟨result, outputs, q, told, hperform, hevents, htold⟩ :=
        tells_of_answer hpoint slots hanswer
      exact ⟨told, .answered hperform hevents htold⟩
    | error e =>
      have hq : (forward net (.keaCommands app commands slots) r).2 = q := by
        rw [forward, Forwarding.operation, perform_map, hperform]
      obtain ⟨hcounters, hevents⟩ | ⟨message, hanswer, -⟩ :=
        forward_keaCommands net hpoint commands slots r
      · rw [hq] at hcounters hevents
        exact ⟨[], .unanswered hperform hevents hcounters⟩
      · obtain ⟨q', hperform'⟩ := keaCommands_reply slots hpoint hanswer
        cases hperform.symm.trans hperform'

theorem exists_tellsAll {fs : List Forwarding}
    (h : ∀ f ∈ fs, (∃ commands slots, f = .keaCommands app commands slots) ∨ f.Apart app point)
    (r : Relay ω) : ∃ told, TellsAll net app point fs r told := by
  induction fs generalizing r with
  | nil => exact ⟨[], .nil⟩
  | cons f fs ih =>
    obtain ⟨hf, hfs⟩ := List.forall_mem_cons.1 h
    obtain ⟨later, hlater⟩ := ih hfs (forward net f r).2
    obtain ⟨commands, slots, rfl⟩ | hapart := hf
    · obtain ⟨told, htold⟩ := exists_tells_keaCommands hpoint commands slots
      exact ⟨told ++ later, .cons htold hlater⟩
    · exact ⟨[] ++ later, .cons (.apart hapart (keaCounters_of_apart hapart)) hlater⟩

end

/-! ### Runs -/

/-- The events of each counter alternate, and the last is bad exactly while it is not zero. -/
def Balanced (app : App) (c : Stats.KeaCounters) (told : List (Counter × Event)) : Prop :=
  ∀ (counter : Counter) (subject : Subject), counter.subject? app = some subject →
    ∃ news, Follows (counter.value c) news ∧
      (eventsOf counter told).map Event.text = news.map News.daemonText

section

variable {net : Network ω} {app : App} {point : AccessPoint} {r : Relay ω}

theorem balanced_nil {c : Stats.KeaCounters} (h : ∀ counter, Counter.value c counter = 0) :
    Balanced app c [] := by
  intro counter _ _
  refine ⟨[], ?_, rfl⟩
  rw [h counter]
  exact follows_nil

theorem Balanced.told {old new : Stats.KeaCounters} {before told : List (Counter × Event)}
    {failures : List Error} (h : Balanced app old before) (htold : Told app failures old new told) :
    Balanced app new (before ++ told) := by
  intro counter subject hsubject
  obtain ⟨news, hfollows, htexts⟩ := h counter subject hsubject
  refine ⟨_, hfollows.change (counter.value new), ?_⟩
  rw [eventsOf_append, List.map_append, List.map_append, htexts, htold.texts hsubject]

theorem Balanced.tells {f : Forwarding} {before told : List (Counter × Event)}
    (h : Balanced app (r.keaCounters app point) before) (hstep : Tells net app point r f told) :
    Balanced app ((forward net f r).2.keaCounters app point) (before ++ told) := by
  cases hstep with
  | answered hperform _ htold =>
    rw [forward, Forwarding.operation, perform_map, hperform]
    exact h.told htold
  | unanswered hperform _ hcounters =>
    rw [forward, Forwarding.operation, perform_map, hperform, List.append_nil]
    exact hcounters ▸ h
  | apart _ hcounters =>
    rw [List.append_nil, hcounters]
    exact h

theorem Balanced.tellsAll {fs : List Forwarding} {before told : List (Counter × Event)}
    (h : Balanced app (r.keaCounters app point) before) (hrun : TellsAll net app point fs r told) :
    Balanced app ((forwardAll net fs r).keaCounters app point) (before ++ told) := by
  induction hrun generalizing before with
  | nil => rwa [List.append_nil]
  | cons hstep _ ih =>
    rw [← List.append_assoc]
    exact ih (h.tells hstep)

end

section

variable {app : App} {c : Stats.KeaCounters} {told : List (Counter × Event)}
  (h : Balanced app c told) {counter : Counter} {subject : Subject}
  (hsubject : counter.subject? app = some subject)

include h hsubject

theorem Balanced.text {i : Nat} {e : Event} (he : (eventsOf counter told)[i]? = some e) :
    e.text = if i % 2 = 0 then daemonFailed else daemonResumed := by
  obtain ⟨news, hfollows, htexts⟩ := h counter subject hsubject
  have htext : (news.map News.daemonText)[i]? = some e.text := by
    rw [← htexts, List.getElem?_map, he]
    rfl
  rw [List.getElem?_map] at htext
  obtain ⟨n, hn, hn'⟩ := Option.map_eq_some_iff.1 htext
  have halternating := hfollows.alternating i n hn
  rw [← hn']
  cases n with
  | unreachable => exact (if_pos (halternating.1 rfl)).symm
  | resumed => exact (if_neg fun heven => nomatch halternating.2 heven).symm

theorem Balanced.getLast?_text : (eventsOf counter told).getLast?.map Event.text =
    some daemonFailed ↔ counter.value c ≠ 0 := by
  obtain ⟨news, hfollows, htexts⟩ := h counter subject hsubject
  have hbad : ∀ n : News, n.daemonText = daemonFailed ↔ n = .unreachable := by
    intro n
    cases n with
    | unreachable => exact iff_of_true rfl rfl
    | resumed => exact iff_of_false (by decide +kernel) nofun
  rw [← List.getLast?_map, htexts, List.getLast?_map, ← hfollows.parity,
    ← hfollows.alternating.getLast?, Option.map_eq_some_iff]
  simp only [hbad, exists_eq_right]

end

/-- A reply publishes the transitions of all counters, and of an app nothing else: the control
agent's first, with the errors of the result as its details, and then those of the listed daemons by
name. So in any run from counters that are zero, if only calls of the app touch them, the events of
every counter are failures and resumptions in turn, and the last is a failure exactly while the
counter is not zero. -/
theorem events_of_counters (net : Network ω) (app : App) (point : AccessPoint)
    (hpoint : app.accessPoint? .control = some point) :
    (∀ (r : Relay ω) commands slots response,
      (r.submit net app.machine.agentAddress
        (.forwardToKeaOverHttp (keaRequest point.url commands))).1 = .ok response →
      ∃ result outputs q told,
        (Operation.keaCommands app commands slots).perform net r = ((.ok result, outputs), q) ∧
        q.appEvents = r.appEvents ++ told.map Prod.snd ∧
        Told app result.failures (r.keaCounters app point) (q.keaCounters app point) told) ∧
    ∀ (r : Relay ω) (fs : List Forwarding),
      (∀ counter, Counter.value (r.keaCounters app point) counter = 0) →
      (∀ f ∈ fs, (∃ commands slots, f = .keaCommands app commands slots) ∨ f.Apart app point) →
      ∃ told, TellsAll net app point fs r told ∧
        ∀ counter subject, Counter.subject? app counter = some subject →
          (∀ (i : Nat) e, (eventsOf counter told)[i]? = some e →
            e.text = if i % 2 = 0 then daemonFailed else daemonResumed) ∧
          ((eventsOf counter told).getLast?.map Event.text = some daemonFailed ↔
            counter.value ((forwardAll net fs r).keaCounters app point) ≠ 0) := by
  refine ⟨fun r commands slots response hanswer => ?_, fun r fs hzero hfs => ?_⟩
  · obtain ⟨message, hmessage⟩ := accepts_of_submit hanswer
    have hreply : (.ok response : Reply) = .ok (.forwardToKeaOverHttp message) :=
      eq_ok_of_bind_forwardToKeaOverHttp? hmessage
    exact tells_of_answer hpoint slots (hanswer.trans hreply)
  · obtain ⟨told, hrun⟩ := exists_tellsAll hpoint hfs r
    have hbalanced : Balanced app ((forwardAll net fs r).keaCounters app point) told :=
      (balanced_nil hzero).tellsAll hrun
    exact ⟨told, hrun, fun counter subject hsubject =>
      ⟨fun i e he => hbalanced.text hsubject he, hbalanced.getLast?_text hsubject⟩⟩

/-- Two replies that have failed as a whole, of which the second has an element of a daemon. -/
theorem events_of_counters_failed :
    listedApp.accessPoint? .control = some keaPoint ∧
    (∃ result outputs q told,
      (Operation.keaCommands listedApp agentCall.1 agentCall.2).perform (keaNetwork failedReply)
        (fresh () 1) = ((.ok result, outputs), q) ∧
      Told listedApp result.failures ((fresh () 1).keaCounters listedApp keaPoint)
        (q.keaCounters listedApp keaPoint) told) ∧
    ∃ told, TellsAll (keaNetwork failedReply) listedApp keaPoint
        (keaCalls listedApp [agentCall, dhcp4Call]) (fresh () 1) told ∧
      (eventsOf (.daemon "dhcp4") told).getLast?.map Event.text = some daemonFailed := by
  obtain ⟨hreply, hrun⟩ := events_of_counters (keaNetwork failedReply) listedApp keaPoint rfl
  obtain ⟨result, outputs, q, told, hperform, -, htold⟩ :=
    hreply (fresh () 1) agentCall.1 agentCall.2 (.forwardToKeaOverHttp failedReply) rfl
  have hcalls : ∀ f ∈ keaCalls listedApp [agentCall, dhcp4Call],
      (∃ commands slots, f = .keaCommands listedApp commands slots) ∨
        f.Apart listedApp keaPoint := by
    intro f hf
    obtain ⟨call, -, rfl⟩ := List.mem_map.1 hf
    exact .inl ⟨call.1, call.2, rfl⟩
  have hzero : ∀ counter,
      Counter.value ((fresh () 1).keaCounters listedApp keaPoint) counter = 0 := by
    intro counter
    cases counter <;> rfl
  obtain ⟨told', htellsAll, hcounters⟩ := hrun (fresh () 1) _ hzero hcalls
  obtain ⟨-, hlast⟩ := hcounters (.daemon "dhcp4") ⟨11, "dhcp4"⟩ rfl
  exact ⟨rfl, ⟨result, outputs, q, told, hperform, htold⟩, told', htellsAll,
    hlast.2 (Nat.succ_ne_zero 0)⟩

end AgentRelay.Relay
