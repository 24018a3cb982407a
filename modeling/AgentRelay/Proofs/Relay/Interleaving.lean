import AgentRelay.Proofs.Relay.AgentErrors
import Mathlib.Data.List.Induction
import Mathlib.Logic.Relation

/-! Operations on one agent that overlap. An operation accounts for its reply in one step and
publishes the events of it in a later one, so events can be published in another order than that of
the accounts they come from. Proved: whatever the order, the news of an agent balance with its
counter once everything is published; and as long as no event overtakes an older one, the last news
are bad exactly while the counter is not zero. An event that overtakes another can leave the agent
announced as unreachable although its counter is zero. -/
namespace AgentRelay.Relay

variable {ω : Type}

/-! ### Accounting and publishing apart -/

/-- An operation to which a reply has come. -/
structure Replied where
  machine : Machine
  title : String
  reply : Reply

namespace Replied

variable (o : Replied) (r : Relay ω)

/-- The relay once the reply is accounted for and nothing of it published. -/
def account : Relay ω :=
  { (r.accountReply o.machine o.title o.reply).2 with events := r.events }

/-- The events of accounting for the reply. -/
def collected : List Event :=
  (r.accountReply o.machine o.title o.reply).2.events.drop r.events.length

theorem events_accountReply :
    ∃ events, (r.accountReply o.machine o.title o.reply).2.events = r.events ++ events := by
  unfold accountReply
  split
  · unfold settle
    split
    · exact ⟨[], by simp⟩
    · exact ⟨_, rfl⟩
  · exact ⟨[], by simp⟩

theorem events_eq : (r.accountReply o.machine o.title o.reply).2.events =
    r.events ++ o.collected r := by
  obtain ⟨events, hevents⟩ := o.events_accountReply r
  rw [collected, hevents, List.drop_left]

/-- The two steps make up what is done with a reply at once. -/
theorem publish_account : (o.account r).publish (o.collected r) =
    (r.accountReply o.machine o.title o.reply).2 := by
  unfold account publish
  simp only [← o.events_eq r]

/-- What the collected events say of the agent. -/
def tidings (address : String) : List News := (o.collected r).filterMap (news? address)

theorem news_accountReply (address : String) :
    (r.accountReply o.machine o.title o.reply).2.news address =
      r.news address ++ o.tidings r address := by
  rw [news, o.events_eq r, List.filterMap_append]
  rfl

variable {r}

/-- A reply is not counted, or it resets the counter, or it adds one to it; and there is news of the
agent when the counter leaves zero and when it returns there. -/
inductive Effect (before after : Nat) : List News → Prop where
  | none (h : after = before) : Effect before after []
  | reset (h : after = 0) : Effect before after (if before = 0 then [] else [.resumed])
  | counted (h : after = before + 1) :
      Effect before after (if before = 0 then [.unreachable] else [])

theorem effect {address : String} (haddress : o.machine.agentAddress = address) :
    Effect ((r.errors? address).getD 0) (((o.account r).errors? address).getD 0)
      (o.tidings r address) := by
  subst haddress
  have hnews := o.news_accountReply r o.machine.agentAddress
  have herrors : (o.account r).errors? o.machine.agentAddress =
    (r.accountReply o.machine o.title o.reply).2.errors? o.machine.agentAddress := rfl
  rw [herrors]
  cases hknown : r.errors? o.machine.agentAddress with
  | none =>
    have hunknown := Option.map_eq_none_iff.1 hknown
    rw [accountReply_of_unknown r o.machine o.title o.reply hunknown] at hnews ⊢
    rw [List.self_eq_append_right.1 hnews, hknown]
    exact .none rfl
  | some n =>
    cases hreply : o.reply with
    | ok response =>
      rw [hreply] at hnews
      obtain ⟨-, hafter, hnews'⟩ := accountReply_answered r o.machine o.title hknown response
      rw [List.append_cancel_left (hnews.symm.trans hnews'), hafter]
      exact .reset rfl
    | error e =>
      rw [hreply] at hnews
      by_cases hcounts : e.countsAgainstAgent = true
      · obtain ⟨-, hafter, hnews'⟩ := accountReply_counted r o.machine o.title hknown hcounts
        rw [List.append_cancel_left (hnews.symm.trans hnews'), hafter]
        exact .counted rfl
      · have hsame : r.accountReply o.machine o.title (.error e) = (.error e, r) := by
          rw [accountReply, isAccounted, if_neg hcounts]
        rw [hsame] at hnews ⊢
        rw [List.self_eq_append_right.1 hnews, hknown]
        exact .none rfl

end Replied

/-! ### Steps -/

/-- Operations that overlap: those whose replies are still to be accounted for, and the events that
the others have still to publish, in the order of the accounts. -/
structure Race (ω : Type) where
  relay : Relay ω
  waiting : List Replied
  held : List (List Event)

/-- Nothing is left to be done. -/
def Race.Finished (s : Race ω) : Prop := s.waiting = [] ∧ s.held = []

/-- Which events may be passed by the ones of a later account. -/
abbrev Overtaking := List (List Event) → Prop

/-- No event passes another. -/
def inOrder : Overtaking := fun passed => passed.flatten = []

/-- Some operation accounts for its reply, or publishes what it has collected; or else something
happens that neither counts for the agent nor says anything of it. -/
inductive Step (address : String) (overtaking : Overtaking) : Race ω → Race ω → Prop
  | account {r : Relay ω} {before after : List Replied} {o : Replied} {held : List (List Event)}
      (haddress : o.machine.agentAddress = address) :
      Step address overtaking ⟨r, before ++ o :: after, held⟩
        ⟨o.account r, before ++ after, held ++ [o.collected r]⟩
  | publish {r : Relay ω} {waiting : List Replied} {passed held : List (List Event)}
      {events : List Event} (hpassed : overtaking passed) :
      Step address overtaking ⟨r, waiting, passed ++ events :: held⟩
        ⟨r.publish events, waiting, passed ++ held⟩
  | elsewhere {r q : Relay ω} {waiting : List Replied} {held : List (List Event)}
      (herrors : (q.errors? address).getD 0 = (r.errors? address).getD 0)
      (hnews : q.news address = r.news address) :
      Step address overtaking ⟨r, waiting, held⟩ ⟨q, waiting, held⟩

/-- Any number of steps. -/
abbrev Run (address : String) (overtaking : Overtaking) : Race ω → Race ω → Prop :=
  Relation.ReflTransGen (Step address overtaking)

/-! ### Operations one after another -/

/-- Accounting and publishing at once is two steps. -/
theorem run_accountReply {address : String} {o : Replied}
    (haddress : o.machine.agentAddress = address) (r : Relay ω) (waiting : List Replied) :
    Run address inOrder ⟨r, o :: waiting, []⟩
      ⟨(r.accountReply o.machine o.title o.reply).2, waiting, []⟩ := by
  have haccount : Step address inOrder ⟨r, [] ++ o :: waiting, []⟩
      ⟨o.account r, [] ++ waiting, [] ++ o.collected r :: []⟩ := .account haddress
  have hpublish : Step address inOrder ⟨o.account r, waiting, [] ++ o.collected r :: []⟩
      ⟨(o.account r).publish (o.collected r), waiting, [] ++ []⟩ := .publish rfl
  rw [o.publish_account r] at hpublish
  exact .tail (.single haccount) hpublish

/-- From one relay to another by the steps of some operations: meanwhile no other takes any, whichever
others wait, and every event is published as soon as it is collected. -/
def Uninterrupted (address : String) (r q : Relay ω) : Prop :=
  ∃ replied, ∀ waiting, Run address inOrder ⟨r, replied ++ waiting, []⟩ ⟨q, waiting, []⟩

section

variable {address : String} {r q p : Relay ω}

theorem Uninterrupted.refl (r : Relay ω) : Uninterrupted address r r := ⟨[], fun _ => .refl⟩

theorem Uninterrupted.trans (h₁ : Uninterrupted address r q) (h₂ : Uninterrupted address q p) :
    Uninterrupted address r p := by
  obtain ⟨first, hfirst⟩ := h₁
  obtain ⟨later, hlater⟩ := h₂
  refine ⟨first ++ later, fun waiting => ?_⟩
  rw [List.append_assoc]
  exact (hfirst (later ++ waiting)).trans (hlater waiting)

theorem Uninterrupted.elsewhere
    (herrors : (q.errors? address).getD 0 = (r.errors? address).getD 0)
    (hnews : q.news address = r.news address) : Uninterrupted address r q :=
  ⟨[], fun _ => .single (.elsewhere herrors hnews)⟩

theorem Uninterrupted.run (h : Uninterrupted address r q) :
    ∃ replied, Run address inOrder ⟨r, replied, []⟩ ⟨q, [], []⟩ := by
  obtain ⟨replied, hrun⟩ := h
  exact ⟨replied, by simpa using hrun []⟩

theorem Quiet.uninterrupted (h : Quiet r q) (address : String) : Uninterrupted address r q :=
  .elsewhere (congrArg (Option.getD · 0) (h.errors address)) (h.news address)

end

section

variable (address : String)

/-- A reply of another agent is accounted for elsewhere. -/
theorem uninterrupted_accountReply (machine : Machine) (title : String) (reply : Reply)
    (r : Relay ω) : Uninterrupted address r (r.accountReply machine title reply).2 := by
  by_cases haddress : machine.agentAddress = address
  · exact ⟨[⟨machine, title, reply⟩],
      run_accountReply (o := ⟨machine, title, reply⟩) haddress r⟩
  · apply Uninterrupted.elsewhere
    · rw [errors?_accountReply_of_ne r machine title reply (Ne.symm haddress)]
    · exact news_accountReply_of_ne r machine title reply (Ne.symm haddress)

/-- What an operation makes of a reply is the account of it, and nothing more as far as the agent is
concerned. -/
theorem Continues.uninterrupted {α : Type} {fault : α → Option Error}
    {goOn : Reply → Relay ω → α × Relay ω} (h : Continues fault goOn) (machine : Machine)
    (title : String) (reply : Reply) (r : Relay ω) :
    Uninterrupted address r (goOn (r.accountReply machine title reply).1
      (r.accountReply machine title reply).2).2 :=
  (uninterrupted_accountReply address machine title reply r).trans
    ((h.quiet _ _).uninterrupted address)

variable (net : Network ω)

/-- Asking an agent changes no counter: a new record starts from zero. -/
theorem errors?_submit (other : String) (request : Request) (r : Relay ω) :
    ((r.submit net other request).2.errors? address).getD 0 = (r.errors? address).getD 0 := by
  obtain ⟨hending, -, -, hothers⟩ := submit_ending net other request r
  by_cases haddress : address = other
  · subst haddress
    generalize (r.submit net address request).1 = reply at *
    cases hending with
    | turnedAway _ hsame => rw [errors?, hsame, errors?]
    | refused hnew hstill _ => rw [errors?, hstill, errors?, hnew]
    | answered _ herrors => rw [herrors, Option.getD_some]
    | failed _ herrors => rw [herrors, Option.getD_some]
  · rw [errors?, hothers address haddress, errors?]

theorem news_submit (other : String) (request : Request) (r : Relay ω) :
    (r.submit net other request).2.news address = r.news address := by
  obtain ⟨-, hevents, -⟩ := submit_ending net other request r
  rw [news, hevents, news]

theorem uninterrupted_forward (f : Forwarding) (r : Relay ω) :
    Uninterrupted address r (forward net f r).2 := by
  obtain ⟨-, hforward⟩ | ⟨request, goOn, hcontinues, -, hforward⟩ := forward_cases net f r
  · rw [hforward]
    exact .refl r
  · rw [hforward]
    have hsubmit : Uninterrupted address r (r.submit net f.machine.agentAddress request).2 :=
      .elsewhere (errors?_submit address net _ request r) (news_submit address net _ request r)
    exact hsubmit.trans (hcontinues.uninterrupted address f.machine f.title _ _)

theorem uninterrupted_forwardAll (fs : List Forwarding) (r : Relay ω) :
    Uninterrupted address r (forwardAll net fs r) := by
  induction fs generalizing r with
  | nil => exact .refl r
  | cons f fs ih => exact (uninterrupted_forward address net f r).trans (ih _)

end

/-! ### The news in the order of the accounts -/

/-- What has been said of the agent and what is still to be said. -/
def Race.told (s : Race ω) (address : String) : List News :=
  s.relay.news address ++ s.held.flatten.filterMap (news? address)

theorem Race.Finished.told {s : Race ω} (h : s.Finished) (address : String) :
    s.told address = s.relay.news address := by
  rw [Race.told, h.2, List.flatten_nil, List.filterMap_nil, List.append_nil]

theorem news_publish (r : Relay ω) (events : List Event) (address : String) :
    (r.publish events).news address = r.news address ++ events.filterMap (news? address) :=
  List.filterMap_append

section

variable (address : String) (r : Relay ω) {waiting : List Replied} {held : List (List Event)}

theorem told_account (o : Replied) {waiting' : List Replied} :
    Race.told ⟨o.account r, waiting', held ++ [o.collected r]⟩ address =
      Race.told ⟨r, waiting, held⟩ address ++ o.tidings r address := by
  simp [Race.told, Replied.tidings, news, Replied.account]

/-- Publishing moves events before those they pass. -/
theorem told_publish_perm (passed : List (List Event)) (events : List Event) :
    (Race.told ⟨r.publish events, waiting, passed ++ held⟩ address).Perm
      (Race.told ⟨r, waiting, passed ++ events :: held⟩ address) := by
  have hswap : (events ++ (passed.flatten ++ held.flatten)).Perm
      (passed.flatten ++ (events ++ held.flatten)) := by
    rw [← List.append_assoc, ← List.append_assoc]
    exact List.perm_append_comm.append_right _
  have htold := (hswap.filterMap (news? address)).append_left (r.news address)
  simpa [Race.told, news_publish] using htold

theorem told_publish_inOrder {passed : List (List Event)} (hpassed : inOrder passed)
    (events : List Event) :
    Race.told ⟨r.publish events, waiting, passed ++ held⟩ address =
      Race.told ⟨r, waiting, passed ++ events :: held⟩ address := by
  have hnone : passed.flatten = [] := hpassed
  simp [Race.told, news_publish, hnone]

end

/-- The history of the news of the agent: they alternate, and the last are bad exactly while the
counter is not zero. -/
structure History (address : String) (r : Relay ω) (history : List News) : Prop where
  alternating : Alternating history
  parity : history.length % 2 = 1 ↔ (r.errors? address).getD 0 ≠ 0

theorem Reported.history {address : String} {contacts : List Contact} {r : Relay ω}
    (h : Reported address contacts r) : History address r (r.news address) :=
  ⟨h.alternating, by rw [h.counted]; exact h.parity⟩

theorem History.effect {address : String} {r q : Relay ω} {history more : List News}
    (h : History address r history)
    (heffect : Replied.Effect ((r.errors? address).getD 0) ((q.errors? address).getD 0) more) :
    History address q (history ++ more) := by
  obtain ⟨halternating, hparity⟩ := h
  generalize (r.errors? address).getD 0 = n at *
  cases heffect with
  | none hafter =>
    rw [List.append_nil]
    exact ⟨halternating, by rw [hafter]; exact hparity⟩
  | reset hafter =>
    split
    · rw [List.append_nil]
      exact ⟨halternating, by rw [hafter]; omega⟩
    · refine ⟨halternating.concat (by simp; omega), ?_⟩
      rw [List.length_append, List.length_singleton, hafter]
      omega
  | counted hafter =>
    split
    · refine ⟨halternating.concat (by simp; omega), ?_⟩
      rw [List.length_append, List.length_singleton, hafter]
      omega
    · rw [List.append_nil]
      exact ⟨halternating, by rw [hafter]; omega⟩

section

variable {address : String} {overtaking : Overtaking} {s t : Race ω} {history : List News}

/-- A step goes on with the history, of which what has been told is a reordering; it is the history
itself as long as no event passes another. -/
theorem Step.goesOn (hstep : Step address overtaking s t) (h : History address s.relay history) :
    ∃ more, History address t.relay (history ++ more) ∧
      ((s.told address).Perm history → (t.told address).Perm (history ++ more)) ∧
      ((∀ passed, overtaking passed → inOrder passed) →
        s.told address = history → t.told address = history ++ more) := by
  cases hstep with
  | @account r before after o held haddress =>
    refine ⟨o.tidings r address, h.effect (o.effect haddress), fun hperm => ?_, fun _ heq => ?_⟩
    · exact told_account address r o ▸ hperm.append_right _
    · rw [told_account, heq]
  | @publish r waiting passed held events hpassed =>
    refine ⟨[], ?_⟩
    rw [List.append_nil]
    exact ⟨⟨h.alternating, h.parity⟩, (told_publish_perm address r passed events).trans,
      fun horder => (told_publish_inOrder address r (horder passed hpassed) events).trans⟩
  | elsewhere herrors hnews =>
    refine ⟨[], ?_⟩
    rw [List.append_nil, Race.told, Race.told, hnews]
    exact ⟨⟨h.alternating, by rw [herrors]; exact h.parity⟩, id, fun _ => id⟩

theorem Run.goesOn (hrun : Run address overtaking s t) (h : History address s.relay history)
    (htold : s.told address = history) :
    ∃ longer, History address t.relay longer ∧ (t.told address).Perm longer ∧
      ((∀ passed, overtaking passed → inOrder passed) → t.told address = longer) := by
  induction hrun with
  | refl => exact ⟨history, h, htold ▸ .refl _, fun _ => htold⟩
  | tail _ hstep ih =>
    obtain ⟨longer, hlonger, hperm, heq⟩ := ih
    obtain ⟨more, hmore, hperm', heq'⟩ := hstep.goesOn hlonger
    exact ⟨longer ++ more, hmore, hperm' hperm, fun horder => heq' horder (heq horder)⟩

end

theorem Uninterrupted.history {address : String} {r q : Relay ω} (h : Uninterrupted address r q)
    (hbefore : History address r (r.news address)) : History address q (q.news address) := by
  obtain ⟨replied, hrun⟩ := h.run
  have htold : Race.told ⟨r, replied, []⟩ address = r.news address :=
    Race.Finished.told (s := ⟨r, [], []⟩) ⟨rfl, rfl⟩ address
  obtain ⟨longer, hlonger, -, heq⟩ := hrun.goesOn hbefore htold
  have hnews := heq fun _ => id
  rw [Race.Finished.told ⟨rfl, rfl⟩ address] at hnews
  rw [hnews]
  exact hlonger

/-! ### What is known in the end -/

/-- Alternating news are balanced, but for the first if their number is odd. -/
theorem Alternating.count {news : List News} (h : Alternating news) :
    news.count .unreachable = news.count .resumed + news.length % 2 := by
  induction news using List.reverseRecOn with
  | nil => rfl
  | append_singleton news n ih =>
    have hprefix : Alternating news := fun i m hm => by
      obtain ⟨hi, -⟩ := List.getElem?_eq_some_iff.1 hm
      exact h i m (by rw [List.getElem?_append_left hi]; exact hm)
    have hlast := h news.length n (by simp)
    have hcount := ih hprefix
    rw [List.count_append, List.count_append, List.length_append, List.length_singleton]
    cases n <;> simp at hlast ⊢ <;> omega

/-- Operations on one agent whose steps are taken in any order, from a relay whose news of the agent
agree with its counter. When all have come to an end, there is one announcement more that the agent
is unreachable than that it is back exactly if its counter is not zero. If no event has passed an
older one, the last announcement tells whether the counter is zero; and carrying operations out one
after another, for whatever agents, is a run of that kind. -/
theorem news_of_race (address : String) (s : Race ω) (hheld : s.held = [])
    (h : History address s.relay (s.relay.news address)) :
    (∀ overtaking t, Run address overtaking s t → t.Finished →
      ((t.relay.news address).count .unreachable = (t.relay.news address).count .resumed +
        if (t.relay.errors? address).getD 0 = 0 then 0 else 1)) ∧
    (∀ t, Run address inOrder s t → t.Finished →
      ((t.relay.news address).getLast? = some .unreachable ↔
        (t.relay.errors? address).getD 0 ≠ 0)) ∧
    ∀ net fs, ∃ replied,
      Run address inOrder ⟨s.relay, replied, []⟩ ⟨forwardAll net fs s.relay, [], []⟩ := by
  obtain ⟨r, waiting, held⟩ := s
  subst hheld
  have htold : Race.told ⟨r, waiting, []⟩ address = r.news address := by simp [Race.told]
  refine ⟨fun overtaking t hrun hfinished => ?_, fun t hrun hfinished => ?_,
    fun net fs => (uninterrupted_forwardAll address net fs r).run⟩
  · obtain ⟨longer, hlonger, hperm, -⟩ := hrun.goesOn h htold
    rw [hfinished.told] at hperm
    have hcount := hlonger.alternating.count
    have hparity := hlonger.parity
    rw [hperm.count_eq, hperm.count_eq, hcount]
    split <;> omega
  · obtain ⟨longer, hlonger, -, heq⟩ := hrun.goesOn h htold
    have hnews := heq fun _ => id
    rw [hfinished.told] at hnews
    rw [hnews, hlonger.alternating.getLast?, hlonger.parity]

/-! ### Overtaken news -/

/-- A network on which every agent tells its state. -/
def responsiveNetwork : Network Unit where
  connect _ w := (none, w)
  call _ _ w := ({ remote := { Remote.failing ⟨.unimplemented, "", []⟩ with
    getState := fun _ => .ok {} } }, w)

/-- A relay that has heard from one agent. -/
def quietRelay : Relay Unit := ran responsiveNetwork () 1 [.hostState "agent" 1]

def failedCall : Replied :=
  ⟨⟨0, "agent", 1⟩, "get state", .error (.transport "agent:1" ⟨.unavailable, "", []⟩)⟩

def answeredCall : Replied := ⟨⟨0, "agent", 1⟩, "get state", .ok (.getState {})⟩

/-- The failed call is accounted for before the answered one and published after it. -/
def overtaken : Relay Unit :=
  let failed := failedCall.account quietRelay
  let answered := answeredCall.account failed
  (answered.publish (answeredCall.collected failed)).publish (failedCall.collected quietRelay)

theorem history_quietRelay : History "agent:1" quietRelay (quietRelay.news "agent:1") :=
  (forwardAll_reported _ (reported_fresh "agent:1" () 1) [.hostState "agent" 1]).history

theorem run_overtaken : Run "agent:1" (fun _ => True)
    ⟨quietRelay, [failedCall, answeredCall], []⟩ ⟨overtaken, [], []⟩ := by
  have haddress : Machine.agentAddress ⟨0, "agent", 1⟩ = "agent:1" := by decide +kernel
  let failed := failedCall.account quietRelay
  let answered := answeredCall.account failed
  let bad := failedCall.collected quietRelay
  let good := answeredCall.collected failed
  have h₁ : Step "agent:1" (fun _ => True) ⟨quietRelay, [] ++ failedCall :: [answeredCall], []⟩
      ⟨failed, [] ++ [answeredCall], [] ++ [bad]⟩ := .account haddress
  have h₂ : Step "agent:1" (fun _ => True) ⟨failed, [] ++ answeredCall :: [], [bad]⟩
      ⟨answered, [] ++ [], [bad] ++ [good]⟩ := .account haddress
  have h₃ : Step "agent:1" (fun _ => True) ⟨answered, [], [bad] ++ good :: []⟩
      ⟨answered.publish good, [], [bad] ++ []⟩ := .publish trivial
  have h₄ : Step "agent:1" (fun _ => True) ⟨answered.publish good, [], [] ++ bad :: []⟩
      ⟨overtaken, [], [] ++ []⟩ := .publish trivial
  exact (((Relation.ReflTransGen.single h₁).tail h₂).tail h₃).tail h₄

/-- All operations have come to an end, the last news are bad, and the counter is zero. -/
theorem overtaken_news :
    Run "agent:1" (fun _ => True) ⟨quietRelay, [failedCall, answeredCall], []⟩
        ⟨overtaken, [], []⟩ ∧
      (overtaken.news "agent:1").getLast? = some .unreachable ∧
      overtaken.errors? "agent:1" = some 0 :=
  ⟨run_overtaken, by decide +kernel, by decide +kernel⟩

/-- The news that overtook each other are balanced all the same. -/
theorem news_of_race_overtaken :
    History "agent:1" quietRelay (quietRelay.news "agent:1") ∧
      (overtaken.news "agent:1").count .unreachable =
        (overtaken.news "agent:1").count .resumed +
          if (overtaken.errors? "agent:1").getD 0 = 0 then 0 else 1 :=
  ⟨history_quietRelay,
    (news_of_race "agent:1" ⟨quietRelay, [failedCall, answeredCall], []⟩ rfl
      history_quietRelay).1 (fun _ => True) ⟨overtaken, [], []⟩ run_overtaken ⟨rfl, rfl⟩⟩

end AgentRelay.Relay
