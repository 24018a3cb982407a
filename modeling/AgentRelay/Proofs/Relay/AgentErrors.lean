import AgentRelay.Proofs.Relay.Forwarding

/-! Operations that are carried out one after another. Whatever agents they are for, the counter of
an agent is the number of its calls that failed since the last one that was answered, the events
about it alternate and show whether the counter is zero, and the error for a caller depends on what
the counter was before. -/
namespace AgentRelay.Relay

variable {ω : Type} (net : Network ω)

/-! ### Runs -/

/-- A relay that knows no agent yet. -/
def fresh (world : ω) (capacity : Nat) : Relay ω := { registry := { world }, capacity }

/-- Carries one operation out. -/
def forward (f : Forwarding) (r : Relay ω) : Option Error × Relay ω := f.operation.perform net r

def forwardAll (fs : List Forwarding) (r : Relay ω) : Relay ω :=
  fs.foldl (fun r f => (forward net f r).2) r

/-- A request that was put to an agent and the reply to it. The agent is known if it has a record
when the reply comes, be it that the request has created it. -/
structure Contact where
  address : String
  reply : Reply
  known : Bool

/-- What an operation puts to an agent, if it is not refused. -/
def contact? (f : Forwarding) (r : Relay ω) : Option Contact :=
  match (f.operation : Operation ω (Option Error)) with
  | .refused _ => none
  | .exchange address request _ =>
    let (reply, q) := r.submit net address request
    some ⟨address, reply, (q.registry.agent? address).isSome⟩

def contacts : List Forwarding → Relay ω → List Contact
  | [], _ => []
  | f :: fs, r => (contact? net f r).toList ++ contacts fs (forward net f r).2

/-! ### What is counted -/

def Contact.answered (c : Contact) : Bool :=
  match c.reply with
  | .ok _ => true
  | .error _ => false

def Contact.failed (c : Contact) : Bool :=
  match c.reply with
  | .ok _ => false
  | .error e => e.isCallFailure

/-- The calls to the agent that failed since the last one that was answered, or since the agent has
a record. -/
def failuresSince (address : String) (history : List Contact) : Nat :=
  ((history.filter fun c => c.known && c.address = address).reverse.takeWhile
    fun c => !c.answered).countP Contact.failed

section

variable {address : String} (history : List Contact) {c : Contact}

theorem failuresSince_skip (h : c.known = false ∨ c.address ≠ address) :
    failuresSince address (history ++ [c]) = failuresSince address history := by
  have hc : (c.known && c.address = address) = false := by
    obtain h | h := h <;> simp [h]
  simp [failuresSince, List.filter_append, hc]

theorem failuresSince_answered (hknown : c.known = true) (haddress : c.address = address)
    (h : c.answered = true) : failuresSince address (history ++ [c]) = 0 := by
  simp [failuresSince, List.filter_append, hknown, haddress, h]

theorem failuresSince_failed (hknown : c.known = true) (haddress : c.address = address)
    (hanswered : c.answered = false) (h : c.failed = true) :
    failuresSince address (history ++ [c]) = failuresSince address history + 1 := by
  simp [failuresSince, List.filter_append, hknown, haddress, hanswered, h]

/-- A request that was turned away counts for nothing. -/
theorem failuresSince_neutral (hanswered : c.answered = false) (h : c.failed = false) :
    failuresSince address (history ++ [c]) = failuresSince address history := by
  cases hc : (c.known && c.address = address) <;>
    simp [failuresSince, List.filter_append, hc, hanswered, h]

theorem failuresSince_le : failuresSince address history ≤ history.length := by
  unfold failuresSince
  calc _ ≤ _ := List.countP_le_length
    _ ≤ _ := (List.takeWhile_sublist _).length_le
    _ = _ := List.length_reverse
    _ ≤ _ := List.length_filter_le ..

end

/-! ### Alternation -/

/-- News that start with `unreachable` and change every time. -/
def Alternating (news : List News) : Prop :=
  ∀ i n, news[i]? = some n → (n = .unreachable ↔ i % 2 = 0)

theorem Alternating.concat {news : List News} {n : News} (h : Alternating news)
    (hn : n = .unreachable ↔ news.length % 2 = 0) : Alternating (news ++ [n]) := by
  intro i m hm
  obtain hi | hi := Nat.lt_or_ge i news.length
  · rw [List.getElem?_append_left hi] at hm
    exact h i m hm
  · rw [List.getElem?_append_right hi, List.getElem?_singleton] at hm
    split at hm
    · cases hm
      have hlength : i = news.length := by omega
      rw [hlength]
      exact hn
    · cases hm

theorem Alternating.getLast? {news : List News} (h : Alternating news) :
    news.getLast? = some .unreachable ↔ news.length % 2 = 1 := by
  rw [List.getLast?_eq_getElem?]
  cases hlast : news[news.length - 1]? with
  | none =>
    have hlength := List.getElem?_eq_none_iff.1 hlast
    simp only [reduceCtorEq, false_iff]
    omega
  | some n =>
    obtain ⟨hlength, -⟩ := List.getElem?_eq_some_iff.1 hlast
    rw [Option.some.injEq, h _ n hlast]
    omega

/-! ### The invariant -/

/-- What a history of contacts means for the agent at an address. -/
structure Reported (address : String) (history : List Contact) (r : Relay ω) : Prop where
  counted : (r.errors? address).getD 0 = failuresSince address history
  silent : r.errors? address = none → r.news address = []
  alternating : Alternating (r.news address)
  /-- The last news, if there are any, are bad exactly while the counter is not zero. -/
  parity : (r.news address).length % 2 = 1 ↔ failuresSince address history ≠ 0

theorem reported_fresh (address : String) (world : ω) (capacity : Nat) :
    Reported address [] (fresh world capacity) :=
  ⟨rfl, fun _ => rfl, fun i n hn => by simp [fresh, news] at hn,
    by simp [fresh, news, failuresSince]⟩

section

variable {address : String} {history : List Contact} {r q : Relay ω}
  (h : Reported address history r)

include h

theorem Reported.keep {longer : List Contact} (herrors : q.errors? address = r.errors? address)
    (hnews : q.news address = r.news address)
    (hsince : failuresSince address longer = failuresSince address history) :
    Reported address longer q := by
  refine ⟨?_, ?_, ?_, ?_⟩
  · rw [herrors, hsince, h.counted]
  · rw [herrors, hnews]
    exact h.silent
  · rw [hnews]
    exact h.alternating
  · rw [hnews, hsince]
    exact h.parity

theorem Reported.answered {c : Contact} (hsince : failuresSince address (history ++ [c]) = 0)
    (herrors : q.errors? address = some 0)
    (hnews : q.news address = r.news address ++
      if (r.errors? address).getD 0 = 0 then [] else [.resumed]) :
    Reported address (history ++ [c]) q := by
  have hparity := h.parity
  rw [← h.counted] at hparity
  refine ⟨by rw [herrors, hsince]; rfl, by simp [herrors], ?_, ?_⟩ <;> rw [hnews] <;> split
  · simpa using h.alternating
  · exact h.alternating.concat (by simp; omega)
  · simp [hsince]
    omega
  · simp [hsince]
    omega

theorem Reported.failed {c : Contact}
    (hsince : failuresSince address (history ++ [c]) = failuresSince address history + 1)
    (herrors : q.errors? address = some ((r.errors? address).getD 0 + 1))
    (hnews : q.news address = r.news address ++
      if (r.errors? address).getD 0 = 0 then [.unreachable] else []) :
    Reported address (history ++ [c]) q := by
  have hparity := h.parity
  rw [← h.counted] at hparity
  refine ⟨by rw [herrors, hsince, h.counted]; rfl, by simp [herrors], ?_, ?_⟩ <;> rw [hnews] <;>
    split
  · exact h.alternating.concat (by simp; omega)
  · simpa using h.alternating
  · simp [hsince]
    omega
  · simp [hsince]
    omega

end

/-! ### One step -/

theorem exchange_reported {address : String} {history : List Contact} {r : Relay ω}
    (h : Reported address history r) (machine : Machine) (title : String) (request : Request) :
    Reported address
      (history ++ [⟨machine.agentAddress, (r.submit net machine.agentAddress request).1,
        ((r.submit net machine.agentAddress request).2.registry.agent?
          machine.agentAddress).isSome⟩])
      ((r.submit net machine.agentAddress request).2.accountReply machine title
        (r.submit net machine.agentAddress request).1).2 := by
  obtain ⟨hending, hevents, -, hothers⟩ := submit_ending net machine.agentAddress request r
  generalize (r.submit net machine.agentAddress request).1 = reply at *
  generalize (r.submit net machine.agentAddress request).2 = q at *
  have hnews : ∀ other, q.news other = r.news other := fun other => by rw [news, hevents, news]
  by_cases haddress : address = machine.agentAddress
  · subst haddress
    cases hending with
    | turnedAway _ hsame =>
      exact h.keep (congrArg _ hsame) (hnews _) (failuresSince_neutral history rfl rfl)
    | refused hnew hstill _ =>
      rw [accountReply_of_unknown q machine title _ hstill]
      exact h.keep (by simp [errors?, hnew, hstill]) (hnews _)
        (failuresSince_skip history (.inl (by simp [hstill])))
    | answered response herrors =>
      obtain ⟨-, herrors', hnews'⟩ := accountReply_answered q machine title herrors response
      exact h.answered (failuresSince_answered history (isSome_of_errors? herrors) rfl rfl) herrors'
        (by rw [hnews', hnews])
    | failed he herrors =>
      obtain ⟨-, herrors', hnews'⟩ := accountReply_failed q machine title herrors he
      exact h.failed (failuresSince_failed history (isSome_of_errors? herrors) rfl rfl he) herrors'
        (by rw [hnews', hnews])
  · refine h.keep ?_ ?_ (failuresSince_skip history (.inr (Ne.symm haddress)))
    · rw [errors?_accountReply_of_ne q machine title _ haddress]
      exact congrArg _ (hothers address haddress)
    · rw [news_accountReply_of_ne q machine title _ haddress, hnews]

/-- An operation is refused and does nothing, or it goes on with the accounted reply to its
request. -/
theorem forward_cases (f : Forwarding) (r : Relay ω) :
    (contact? net f r = none ∧ (forward net f r).2 = r) ∨ ∃ request goOn, Continues id goOn ∧
      contact? net f r = some ⟨f.machine.agentAddress,
        (r.submit net f.machine.agentAddress request).1,
        ((r.submit net f.machine.agentAddress request).2.registry.agent?
          f.machine.agentAddress).isSome⟩ ∧
      forward net f r =
        goOn ((r.submit net f.machine.agentAddress request).2.accountReply f.machine f.title
            (r.submit net f.machine.agentAddress request).1).1
          ((r.submit net f.machine.agentAddress request).2.accountReply f.machine f.title
            (r.submit net f.machine.agentAddress request).1).2 := by
  have hforwards := f.forwards (ω := ω)
  unfold forward contact?
  generalize (f.operation : Operation ω (Option Error)) = operation at *
  cases hforwards with
  | refused => exact .inl ⟨rfl, rfl⟩
  | @roundTrip request goOn hcontinues => exact .inr ⟨request, goOn, hcontinues, rfl, rfl⟩

theorem forward_reported {address : String} {history : List Contact} {r : Relay ω}
    (h : Reported address history r) (f : Forwarding) :
    Reported address (history ++ (contact? net f r).toList) (forward net f r).2 := by
  obtain ⟨hcontact, hforward⟩ | ⟨request, goOn, hcontinues, hcontact, hforward⟩ :=
    forward_cases net f r
  · rw [hcontact, hforward, Option.toList_none, List.append_nil]
    exact h
  · rw [hcontact, hforward]
    have hquiet := hcontinues.quiet
      ((r.submit net f.machine.agentAddress request).2.accountReply f.machine f.title
        (r.submit net f.machine.agentAddress request).1).1
      ((r.submit net f.machine.agentAddress request).2.accountReply f.machine f.title
        (r.submit net f.machine.agentAddress request).1).2
    exact (exchange_reported net h f.machine f.title request).keep (hquiet.errors address)
      (hquiet.news address) rfl

theorem forwardAll_reported {address : String} {history : List Contact} {r : Relay ω}
    (h : Reported address history r) (fs : List Forwarding) :
    Reported address (history ++ contacts net fs r) (forwardAll net fs r) := by
  induction fs generalizing history r with
  | nil => simpa [contacts, forwardAll] using h
  | cons f fs ih =>
    have hstep := ih (forward_reported net h f)
    rw [List.append_assoc] at hstep
    exact hstep

/-! ### What the caller gets -/

section

variable {net} {f : Forwarding} {r : Relay ω} {e : Error}

/-- The error of a failed call, and whether it has been seen before. -/
theorem forward_failed {address : String}
    (h : contact? net f r = some ⟨address, .error e, true⟩) (he : e.isCallFailure = true) :
    (forward net f r).1 = some (if (r.errors? address).getD 0 = 0
      then .unreachable address f.title e else .stillUnreachable address f.title) := by
  obtain ⟨hcontact, -⟩ | ⟨request, goOn, hcontinues, hcontact, hforward⟩ := forward_cases net f r
  · rw [hcontact] at h
    cases h
  · rw [hcontact, Option.some.injEq, Contact.mk.injEq] at h
    obtain ⟨rfl, hreply, hknown⟩ := h
    obtain ⟨hending, -⟩ := submit_ending net f.machine.agentAddress request r
    rw [hforward]
    generalize (r.submit net f.machine.agentAddress request).1 = reply at *
    generalize (r.submit net f.machine.agentAddress request).2 = q at *
    cases hending with
    | turnedAway =>
      cases hreply
      cases he
    | refused _ hstill _ => simp [hstill] at hknown
    | answered => cases hreply
    | failed he herrors =>
      cases hreply
      rw [(accountReply_failed q f.machine f.title herrors he).1]
      exact hcontinues.fault_error _ _

/-- A first connection that cannot be opened leaves no trace in records and events. -/
theorem forward_refused {c : Contact} {w : ω} (haccepting : r.accepting = true)
    (hopen : r.registry.cancelled = false) (h : contact? net f r = some c)
    (hnew : r.registry.agent? c.address = none)
    (hconnect : net.connect c.address r.registry.world = (some e, w)) :
    c.reply = .error e ∧ c.known = false ∧ (forward net f r).1 = some e ∧
      (forward net f r).2.events = r.events ∧
      ∀ other, (forward net f r).2.registry.agent? other = r.registry.agent? other := by
  obtain ⟨hcontact, -⟩ | ⟨request, goOn, hcontinues, hcontact, hforward⟩ := forward_cases net f r
  · rw [hcontact] at h
    cases h
  · rw [hcontact, Option.some.injEq] at h
    subst h
    simp only at hnew hconnect ⊢
    obtain ⟨-, hevents, -, hothers⟩ := submit_ending net f.machine.agentAddress request r
    obtain ⟨hreply, hstill⟩ := submit_refused net f.machine.agentAddress request r haccepting hopen
      hnew hconnect
    rw [hforward, hreply, accountReply_of_unknown _ _ _ _ hstill,
      hcontinues.relay_error]
    refine ⟨rfl, by rw [hstill, Option.isSome_none], hcontinues.fault_error _ _, hevents,
      fun other => ?_⟩
    by_cases hother : other = f.machine.agentAddress
    · rw [hother, hstill, hnew]
    · exact hothers other hother

theorem accepting_forward : (forward net f r).2.accepting = r.accepting := by
  obtain ⟨-, hforward⟩ | ⟨request, goOn, hcontinues, -, hforward⟩ := forward_cases net f r
  · rw [hforward]
  · obtain ⟨-, -, hsubmit, -⟩ := submit_ending net f.machine.agentAddress request r
    rw [hforward, (hcontinues.quiet _ _).accepting, accepting_accountReply, hsubmit]

theorem accepting_forwardAll (fs : List Forwarding) :
    (forwardAll net fs r).accepting = r.accepting := by
  induction fs generalizing r with
  | nil => rfl
  | cons f fs ih => exact ih.trans accepting_forward

end

theorem length_contacts_le (fs : List Forwarding) (r : Relay ω) :
    (contacts net fs r).length ≤ fs.length := by
  induction fs generalizing r with
  | nil => exact Nat.le_refl 0
  | cons f fs ih =>
    have hcontact : (contact? net f r).toList.length ≤ 1 := by
      cases contact? net f r <;> simp
    have hrest := ih (forward net f r).2
    simp only [contacts, List.length_append, List.length_cons]
    omega

/-! ### Runs of any length -/

/-- The relay after operations that have found it without any agent. -/
def ran (world : ω) (capacity : Nat) (fs : List Forwarding) : Relay ω :=
  forwardAll net fs (fresh world capacity)

/-- After any operations, for any agents and however these behave: the counter of an agent is the
number of its calls that failed since it last answered, and never more than there were operations;
the news of it alternate from bad to good, and the last are bad exactly while the counter is not
zero. The next operation, whatever it is, tells its caller of a failed call in full exactly when the
counter was zero before. If it is the first contact with an agent and the connection cannot be
opened, the caller gets that very error, and no record and no event is touched. -/
theorem errors_and_news_of_run (net : Network ω) (world : ω) (capacity : Nat)
    (fs : List Forwarding) :
    (∀ address agent, (ran net world capacity fs).registry.agent? address = some agent →
      agent.stats.currentErrors =
        failuresSince address (contacts net fs (fresh world capacity)) ∧
      agent.stats.currentErrors ≤ fs.length ∧
      Alternating ((ran net world capacity fs).news address) ∧
      (((ran net world capacity fs).news address).getLast? = some .unreachable ↔
        agent.stats.currentErrors ≠ 0)) ∧
    (∀ f address e,
      contact? net f (ran net world capacity fs) = some ⟨address, .error e, true⟩ →
      e.isCallFailure = true →
        (forward net f (ran net world capacity fs)).1 =
          some (if ((ran net world capacity fs).errors? address).getD 0 = 0
            then .unreachable address f.title e else .stillUnreachable address f.title)) ∧
    ∀ f c e w, contact? net f (ran net world capacity fs) = some c →
      (ran net world capacity fs).registry.cancelled = false →
      (ran net world capacity fs).registry.agent? c.address = none →
      net.connect c.address (ran net world capacity fs).registry.world = (some e, w) →
        c.reply = .error e ∧ c.known = false ∧
        (forward net f (ran net world capacity fs)).1 = some e ∧
        (forward net f (ran net world capacity fs)).2.events =
          (ran net world capacity fs).events ∧
        ∀ other, (forward net f (ran net world capacity fs)).2.registry.agent? other =
          (ran net world capacity fs).registry.agent? other := by
  have haccepting : (ran net world capacity fs).accepting = true := accepting_forwardAll fs
  refine ⟨fun address agent hagent => ?_, fun f address e h he => forward_failed h he,
    fun f c e w h hopen hnew hconnect => forward_refused haccepting hopen h hnew hconnect⟩
  have h : Reported address (contacts net fs (fresh world capacity))
      (ran net world capacity fs) :=
    forwardAll_reported net (reported_fresh address world capacity) fs
  have hcounted : agent.stats.currentErrors =
      failuresSince address (contacts net fs (fresh world capacity)) := by
    rw [← h.counted, errors?, hagent]
    rfl
  refine ⟨hcounted, ?_, h.alternating, ?_⟩
  · rw [hcounted]
    exact Nat.le_trans (failuresSince_le _) (length_contacts_le net fs _)
  · rw [h.alternating.getLast?, h.parity, hcounted]

end AgentRelay.Relay
