import AgentRelay.Proofs.Queue.Independence
import AgentRelay.Proofs.Registry.Records
import AgentRelay.Proofs.Relay.Interleaving
import AgentRelay.Proofs.Relay.Shutdown
import AgentRelay.Relay.Concurrent

/-! Callers that come to the relay at the same time. Each gets one answer, and a caller who comes
alone gets what it would get with nobody else about. The requests of a round are answered as a queue
of them is served. What the callers do is a race in which no event passes another, however their
requests are spread over the rounds: so the news of every agent agree with its counter after any
number of batches. -/
namespace AgentRelay.Relay

variable {ω α β γ : Type}

/-! ### Rounds -/

/-- The rounds hold all requests, in their order. -/
theorem flatten_pieces (more : Nat) (bs : List β) : (pieces more bs).flatten = bs := by
  fun_induction pieces more bs with
  | case1 => rfl
  | case2 b rest ih => rw [List.flatten_cons, ih, List.cons_append, List.take_append_drop]

section

variable (step : β → Relay ω → γ × Relay ω)

theorem each_cons (b : β) (rest : List β) (r : Relay ω) : each step (b :: rest) r =
    ((step b r).1 :: (each step rest (step b r).2).1, (each step rest (step b r).2).2) := rfl

theorem length_each (bs : List β) (r : Relay ω) : (each step bs r).1.length = bs.length := by
  induction bs generalizing r with
  | nil => rfl
  | cons b rest ih => rw [each_cons, List.length_cons, ih, List.length_cons]

theorem exists_of_mem_each {bs : List β} {r : Relay ω} {c : γ} (h : c ∈ (each step bs r).1) :
    ∃ b ∈ bs, ∃ q, (step b q).1 = c := by
  induction bs generalizing r with
  | nil => cases h
  | cons b rest ih =>
    rw [each_cons] at h
    obtain rfl | h := List.mem_cons.1 h
    · exact ⟨b, List.mem_cons_self, r, rfl⟩
    · obtain ⟨b', hb', hstep⟩ := ih h
      exact ⟨b', List.mem_cons_of_mem b hb', hstep⟩

end

/-! ### One answer for each caller -/

/-- The places that are open are filled, if there are answers for all of them. -/
theorem length_fillIn {begun : List (α ⊕ β)} {later : List α}
    (h : later.length = (begun.filterMap Sum.getRight?).length) :
    (fillIn begun later).length = begun.length := by
  induction begun generalizing later with
  | nil => rfl
  | cons first begun ih =>
    cases first with
    | inl a => exact congrArg (· + 1) (ih h)
    | inr b =>
      cases later with
      | nil => cases h
      | cons a later => exact congrArg (· + 1) (ih (Nat.succ.inj h))

section

variable (net : Network ω)

theorem length_round (callers : List (Waiting ω α)) (r : Relay ω) :
    (round net callers r).1.length = callers.length := by
  show (each _ (callers.zip _) _).1.length = _
  rw [length_each, List.length_zip, length_each, Nat.min_self]

theorem length_rounds (rounds : List (List (Waiting ω α))) (r : Relay ω) :
    (each (round net) rounds r).1.flatten.length = rounds.flatten.length := by
  induction rounds generalizing r with
  | nil => rfl
  | cons callers rounds ih =>
    rw [each_cons, List.flatten_cons, List.length_append, ih, length_round, List.flatten_cons,
      List.length_append]

theorem length_concurrently (tasks : List (Task ω α)) (r : Relay ω) :
    (concurrently net tasks r).1.length = tasks.length := by
  show (fillIn _ _).length = _
  rw [length_fillIn, length_each]
  rw [length_rounds, flatten_pieces]

/-! ### The requests of a round -/

def Waiting.envelope (w : Waiting ω α) : Envelope := { address := w.address, request := w.request }

theorem answer_of_cancelled {r : Relay ω} (h : r.registry.cancelled = true) (address : String)
    (request : Request) : r.answer net address request = (.error .shuttingDown, r) := by
  unfold answer
  rw [if_pos h]

/-- The callers of a round get the replies that the queue has for them: the ones it gives before the
end is asked for, and that they are turned away for the others. -/
theorem answers_eq_serve (callers : List (Waiting ω α)) (r : Relay ω) :
    each (fun w r => r.answer net w.address w.request) callers r =
      ((Queue.serve net (callers.map Waiting.envelope) r.registry).1 ++
        Queue.reject (Queue.serve net (callers.map Waiting.envelope) r.registry).2.1,
      { r with registry := (Queue.serve net (callers.map Waiting.envelope) r.registry).2.2 }) := by
  induction callers generalizing r with
  | nil => rfl
  | cons w callers ih =>
    rw [each_cons, ih, List.map_cons]
    by_cases hcancelled : r.registry.cancelled = true
    · rw [answer_of_cancelled net hcancelled, Queue.serve_of_cancelled net hcancelled,
        Queue.serve_of_cancelled net hcancelled]
      rfl
    · rw [Queue.serve_cons net _ _ (Bool.eq_false_iff.2 hcancelled), answer, if_neg hcancelled]
      rfl

end

/-! ### Regular tasks -/

/-- As far as the agent is concerned, nothing comes of a reply but its accounts. -/
def Operation.Regular (address : String) : Operation ω α → Prop
  | .refused _ => True
  | .exchange _ _ goOn => ∀ reply r, Uninterrupted address r (goOn reply r).2

def Task.Regular (address : String) : Task ω α → Prop
  | .forward operation => operation.Regular address
  | .immediate run => ∀ r, Uninterrupted address r (run r).2
  | .shutdown _ => True

def Waiting.Regular (address : String) (w : Waiting ω α) : Prop :=
  ∀ reply r, Uninterrupted address r (w.goOn reply r).2

section

variable {address : String}

theorem Forwards.regular {machine : Machine} {title : String} {fault : α → Option Error}
    {operation : Operation ω α} (h : Forwards machine title fault operation) :
    operation.Regular address := by
  cases h with
  | refused => trivial
  | roundTrip h => exact fun reply r => h.uninterrupted address machine title reply r

/-- A record that is made for a new agent starts from zero. -/
theorem errors?_connectedAgent (net : Network ω) (other : String) (r : Relay ω) :
    ((r.connectedAgent net other).2.errors? address).getD 0 = (r.errors? address).getD 0 := by
  show Option.getD (((r.registry.getOrCreate net other).2.agent? address).map _) 0 =
    Option.getD ((r.registry.agent? address).map _) 0
  by_cases haddress : address = other
  · subst haddress
    cases hagent : r.registry.agent? address with
    | some agent =>
      obtain ⟨entries, hentries⟩ := Registry.getOrCreate_known net r.registry hagent
      rw [hentries, Registry.agent?_log, hagent]
    | none =>
      have henter : r.registry.getOrCreate net address = r.registry.enter net address := by
        unfold Registry.getOrCreate
        rw [hagent]
      rw [henter]
      rcases hconnect : net.connect address r.registry.world with ⟨_ | e, w⟩
      · obtain ⟨-, hcreated⟩ := Registry.enter_created hagent hconnect
        rw [hcreated.agent]
        rfl
      · rw [Registry.enter_refused hagent hconnect]
        exact congrArg (fun agent => Option.getD (Option.map _ agent) 0) hagent
  · rw [Registry.agent?_getOrCreate_of_ne net r.registry haddress]

/-! ### A batch -/

theorem uninterrupted_each {step : β → Relay ω → γ × Relay ω} {bs : List β}
    (h : ∀ b ∈ bs, ∀ r, Uninterrupted address r (step b r).2) (r : Relay ω) :
    Uninterrupted address r (each step bs r).2 := by
  induction bs generalizing r with
  | nil => exact .refl r
  | cons b rest ih =>
    exact (h b List.mem_cons_self r).trans (ih (fun b' hb' => h b' (List.mem_cons_of_mem b hb')) _)

theorem uninterrupted_start (r : Relay ω) : Uninterrupted address r r.start := by
  unfold start
  split
  · exact .refl r
  · exact .elsewhere rfl rfl

theorem uninterrupted_release (r : Relay ω) : Uninterrupted address r r.release := by
  apply Uninterrupted.elsewhere
  · have hagent : r.release.registry.agent? address =
        (r.registry.agent? address).map Registry.closed := Registry.agent?_closeAll address
    rw [errors?, hagent, Option.map_map]
    rfl
  · rfl

theorem begin_exchange (other : String) (request : Request)
    (goOn : Reply → Relay ω → α × Relay ω) (r : Relay ω) :
    (Task.forward (.exchange other request goOn)).begin r =
      if r.accepting then (.inr ⟨other, request, goOn⟩, r)
      else (.inl (goOn (.error .shuttingDown) r).1, (goOn (.error .shuttingDown) r).2) := rfl

/-- What comes of a task before it has to wait, and what is left of it then. -/
theorem Task.Regular.begin {t : Task ω α} (h : t.Regular address) (r : Relay ω) :
    Uninterrupted address r (t.begin r).2 ∧ ∀ w, (t.begin r).1 = .inr w → w.Regular address := by
  cases t with
  | forward operation =>
    cases operation with
    | refused a => exact ⟨.refl r, nofun⟩
    | exchange other request goOn =>
      rw [begin_exchange]
      split
      · refine ⟨.refl r, fun w hw => ?_⟩
        cases hw
        exact h
      · exact ⟨h _ r, nofun⟩
  | immediate run => exact ⟨h r, nofun⟩
  | shutdown a =>
    refine ⟨?_, nofun⟩
    show Uninterrupted address r (if r.accepting then r.stop else r)
    split
    · exact .elsewhere rfl rfl
    · exact .refl r

section

variable (net : Network ω)

/-- An answer from the queue is the reply to a request that finds the relay at work. -/
theorem uninterrupted_answer (other : String) (request : Request) (r : Relay ω) :
    Uninterrupted address r (r.answer net other request).2 := by
  -- how a request ends is known of `submit`, which asks the same of a relay that accepts it
  let working : Relay ω := { r with accepting := true, started := true }
  have hanswer : (r.answer net other request).2.registry =
        (working.submit net other request).2.registry ∧
      (r.answer net other request).2.events = (working.submit net other request).2.events := by
    simp only [working, submit, start, answer, if_true]
    split <;> exact ⟨rfl, rfl⟩
  apply Uninterrupted.elsewhere
  · rw [errors?, hanswer.1]
    exact errors?_submit address net other request working
  · rw [news, hanswer.2]
    exact news_submit address net other request working

theorem uninterrupted_round {callers : List (Waiting ω α)}
    (h : ∀ w ∈ callers, w.Regular address) (r : Relay ω) :
    Uninterrupted address r (round net callers r).2 := by
  have hanswers : Uninterrupted address r
      (each (fun w q => q.answer net w.address w.request) callers r).2 :=
    uninterrupted_each (fun w _ => uninterrupted_answer net w.address w.request) r
  refine hanswers.trans (uninterrupted_each (fun caller hcaller q => ?_) _)
  exact h caller.1 (List.of_mem_zip hcaller).1 caller.2 q

theorem uninterrupted_rounds (more : Nat) {waiting : List (Waiting ω α)}
    (h : ∀ w ∈ waiting, w.Regular address) (r : Relay ω) :
    Uninterrupted address r (each (round net) (pieces more waiting) r).2 := by
  apply uninterrupted_each
  intro callers hcallers
  apply uninterrupted_round
  intro w hw
  have hmem : w ∈ (pieces more waiting).flatten := List.mem_flatten_of_mem hcallers hw
  rw [flatten_pieces] at hmem
  exact h w hmem

/-- However many callers there are, nobody comes between the account of a reply and what is published
of it. -/
theorem uninterrupted_concurrently {tasks : List (Task ω α)}
    (h : ∀ t ∈ tasks, t.Regular address) (r : Relay ω) :
    Uninterrupted address r (concurrently net tasks r).2 := by
  have hstart : Uninterrupted address r (if tasks.isEmpty then r else r.start) := by
    split
    · exact .refl r
    · exact uninterrupted_start r
  have hbegin := uninterrupted_each (fun t ht q => ((h t ht).begin q).1)
    (if tasks.isEmpty then r else r.start)
  have hwaiting : ∀ w ∈ (each Task.begin tasks
      (if tasks.isEmpty then r else r.start)).1.filterMap Sum.getRight?, w.Regular address := by
    intro w hw
    obtain ⟨begun, hbegun, hright⟩ := List.mem_filterMap.1 hw
    obtain ⟨t, ht, q, hstep⟩ := exists_of_mem_each Task.begin hbegun
    exact ((h t ht).begin q).2 w (hstep.trans (Sum.getRight?_eq_some_iff.1 hright))
  unfold concurrently
  -- nothing further depends on how the tasks have begun, only on who waits
  generalize each Task.begin tasks (if tasks.isEmpty then r else r.start) = begun at *
  obtain ⟨begun, q⟩ := begun
  refine hstart.trans (hbegin.trans ?_)
  dsimp only
  cases r.accepting && !q.accepting with
  | false => exact uninterrupted_rounds net _ hwaiting q
  | true =>
    have hlogged : ∀ entries, Uninterrupted address q (q.log entries) := fun entries =>
      (quiet_log q entries).uninterrupted address
    exact (hlogged _).trans ((uninterrupted_rounds net _ hwaiting _).trans (uninterrupted_release _))

theorem run_concurrently {tasks : List (Task ω α)} (h : ∀ t ∈ tasks, t.Regular address)
    (r : Relay ω) : ∃ replied,
      Run address inOrder ⟨r, replied, []⟩ ⟨(concurrently net tasks r).2, [], []⟩ :=
  (uninterrupted_concurrently net h r).run

end

end

/-! ### A caller who comes alone -/

section

variable (net : Network ω)

theorem each_singleton (step : β → Relay ω → γ × Relay ω) (b : β) (r : Relay ω) :
    each step [b] r = ([(step b r).1], (step b r).2) := rfl

theorem pieces_singleton (more : Nat) (b : β) : pieces more [b] = [[b]] := by
  rw [pieces, List.take_nil, List.drop_nil, pieces]

theorem round_singleton (w : Waiting ω α) (r : Relay ω) : round net [w] r =
    ([(w.goOn (r.answer net w.address w.request).1 (r.answer net w.address w.request).2).1],
      (w.goOn (r.answer net w.address w.request).1 (r.answer net w.address w.request).2).2) := rfl

theorem start_of_started {r : Relay ω} (h : r.started = true) : r.start = r := by
  unfold start
  rw [if_pos h]

section

variable {t : Task ω α} {r q : Relay ω} (hstarted : r.started = true)

include hstarted

/-- Nobody waits, and there is no round. -/
theorem concurrently_of_begin_inl {a : α} (h : t.begin r = (.inl a, q)) :
    concurrently net [t] r = ([a], if r.accepting && !q.accepting then
      (q.log [Queue.stoppedEntry 0]).release else q) := by
  have hwaiting : [(.inl a : α ⊕ Waiting ω α)].filterMap Sum.getRight? = [] := rfl
  have hrounds : ∀ more (p : Relay ω),
      each (round net) (pieces more ([] : List (Waiting ω α))) p = ([], p) := fun more p => by
    rw [pieces]
    rfl
  unfold concurrently
  rw [each_singleton, List.isEmpty_cons, if_neg Bool.false_ne_true, start_of_started hstarted, h]
  simp only [hwaiting, hrounds, List.length_nil, Nat.zero_min]
  cases r.accepting && !q.accepting <;> rfl

/-- One caller waits, and the only round is for it. -/
theorem concurrently_of_begin_inr {w : Waiting ω α} (h : t.begin r = (.inr w, r)) :
    concurrently net [t] r =
      ([(w.goOn (r.answer net w.address w.request).1 (r.answer net w.address w.request).2).1],
        (w.goOn (r.answer net w.address w.request).1 (r.answer net w.address w.request).2).2) := by
  have hwaiting : [(.inr w : α ⊕ Waiting ω α)].filterMap Sum.getRight? = [w] := rfl
  unfold concurrently
  rw [each_singleton, List.isEmpty_cons, if_neg Bool.false_ne_true, start_of_started hstarted, h]
  simp only [hwaiting, Bool.and_not_self, Bool.false_eq_true, if_false, pieces_singleton,
    each_singleton, round_singleton]
  rfl

/-- Where the queue has been looked at before, a task by itself is carried out as if there were no
rounds. -/
theorem concurrently_singleton
    (himmediate : ∀ run, t = .immediate run → (run r).2.accepting = r.accepting) :
    concurrently net [t] r = ([(t.perform net r).1], (t.perform net r).2) := by
  cases t with
  | forward operation =>
    cases operation with
    | refused a =>
      rw [concurrently_of_begin_inl net hstarted rfl, Bool.and_not_self]
      rfl
    | exchange other request goOn =>
      -- turned away at once, or by itself in the only round
      have hbegin := begin_exchange other request goOn r
      cases haccepting : r.accepting with
      | false =>
        rw [haccepting, if_neg Bool.false_ne_true] at hbegin
        have hperform : (Task.forward (.exchange other request goOn)).perform net r =
            goOn (.error .shuttingDown) r := by
          simp [Task.perform, Operation.perform, submit, haccepting]
        rw [concurrently_of_begin_inl net hstarted hbegin, haccepting, hperform]
        rfl
      | true =>
        rw [haccepting, if_pos rfl] at hbegin
        have hperform : (Task.forward (.exchange other request goOn)).perform net r =
            goOn (r.answer net other request).1 (r.answer net other request).2 := by
          simp [Task.perform, Operation.perform, submit, haccepting, start_of_started hstarted]
        rw [concurrently_of_begin_inr net hstarted hbegin, hperform]
  | immediate run =>
    rw [concurrently_of_begin_inl net hstarted rfl, himmediate run rfl, Bool.and_not_self]
    rfl
  | shutdown a =>
    rw [concurrently_of_begin_inl net hstarted rfl]
    cases haccepting : r.accepting with
    | false =>
      have hperform : (Task.shutdown a).perform net r = (a, r) := by
        simp [Task.perform, shutdown, haccepting]
      rw [hperform]
      rfl
    | true =>
      have hperform : (Task.shutdown a).perform net r =
          (a, (r.stop.log [Queue.stoppedEntry 0]).release) := by
        have hstop : r.stop.start = r.stop := start_of_started hstarted
        simp [Task.perform, shutdown, haccepting, hstop]
      rw [hperform]
      rfl

end

end

/-! ### Actions -/

section

variable (net : Network ω)

/-- What a caller does, as a task; of its outcome the error is kept. -/
def Action.task : Action → Task ω (Option Error)
  | .forward f => .forward f.operation
  | .connectedAgent address => .immediate fun r =>
    (failure? (r.connectedAgent net address).1, (r.connectedAgent net address).2)
  | .stats _ _ => .immediate fun r => (none, r)
  | .shutdown => .shutdown none

theorem Action.regular_task (action : Action) (address : String) :
    (action.task net).Regular address := by
  cases action with
  | forward f => exact f.forwards.regular
  | connectedAgent other =>
    exact fun r => .elsewhere (errors?_connectedAgent net other r) rfl
  | stats other port => exact fun r => .refl r
  | shutdown => trivial

theorem Action.task_perform (action : Action) (r : Relay ω) :
    ((action.task net).perform net r).2 = action.perform net r := by
  cases action <;> rfl

/-- An action by itself is a batch of one. -/
theorem concurrently_task (action : Action) {r : Relay ω} (hstarted : r.started = true) :
    (concurrently net [action.task net] r).2 = action.perform net r := by
  rw [concurrently_singleton net hstarted, action.task_perform]
  intro run hrun
  cases action with
  | connectedAgent | stats =>
    cases hrun
    rfl
  | forward | shutdown => cases hrun

/-! ### Batches one after another -/

/-- Carries batches of actions out; those of a batch all begin before any of them ends. -/
def runTogether (batches : List (List Action)) (r : Relay ω) : Relay ω :=
  batches.foldl (fun r actions => (concurrently net (actions.map (Action.task net)) r).2) r

theorem uninterrupted_runTogether (address : String) (batches : List (List Action))
    (r : Relay ω) : Uninterrupted address r (runTogether net batches r) := by
  induction batches generalizing r with
  | nil => exact .refl r
  | cons actions batches ih =>
    have hregular : ∀ t ∈ actions.map (Action.task net), t.Regular address := by
      intro t ht
      obtain ⟨action, -, rfl⟩ := List.mem_map.1 ht
      exact action.regular_task net address
    exact (uninterrupted_concurrently net hregular r).trans (ih _)

/-- After any number of batches of callers who come at the same time, whatever they ask for and
however the agents behave, the news of an agent alternate, and the last are bad exactly while its
counter is not zero. -/
theorem news_of_batches (world : ω) (capacity : Nat) (batches : List (List Action))
    (address : String) :
    Alternating ((runTogether net batches (fresh world capacity)).news address) ∧
      (((runTogether net batches (fresh world capacity)).news address).getLast? =
          some .unreachable ↔
        ((runTogether net batches (fresh world capacity)).errors? address).getD 0 ≠ 0) := by
  have hfresh := (reported_fresh address world capacity).history
  have hafter := (uninterrupted_runTogether net address batches _).history hfresh
  exact ⟨hafter.alternating, hafter.alternating.getLast?.trans hafter.parity⟩

end

end AgentRelay.Relay
