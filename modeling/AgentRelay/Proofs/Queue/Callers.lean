import AgentRelay.Proofs.Queue.Order
import Mathlib.Data.List.Forall2

/-! A caller who has stopped waiting makes no difference to anybody else. Whether a caller waits is
looked at after the call was made, and then decides about one line of the log; and what an operation
does never depends on the log. So two runs that differ in nothing but in who has stopped waiting
lead to the same replies, the same traffic and the same registry. -/
namespace AgentRelay

variable {ω : Type} (net : Network ω)

namespace Registry

variable {α : Type} {shown : Log.Entry → Bool} {r q : Registry ω}

/-! ### Registries that differ in their logs -/

/-- Registries in which everything is the same except for lines of the log that are not shown. -/
inductive Alike (shown : Log.Entry → Bool) (r : Registry ω) : Registry ω → Prop where
  | relog {logs : List Log.Entry} (h : r.logs.filter shown = logs.filter shown) :
      Alike shown r { r with logs }

/-- Outcomes of which the results are the same and the registries are alike. -/
def SameOutcome (shown : Log.Entry → Bool) (x y : α × Registry ω) : Prop :=
  x.1 = y.1 ∧ Alike shown x.2 y.2

theorem SameOutcome.elim {x y : α × Registry ω} (h : SameOutcome shown x y) :
    ∃ a r q, x = (a, r) ∧ y = (a, q) ∧ Alike shown r q := by
  obtain ⟨a, r⟩ := x
  obtain ⟨b, q⟩ := y
  obtain ⟨rfl, hafter⟩ := h
  exact ⟨a, r, q, rfl, rfl, hafter⟩

theorem Alike.refl (r : Registry ω) : Alike shown r r := .relog rfl

section

variable (h : Alike shown r q)

include h

theorem Alike.eq_relog : { r with logs := q.logs } = q := by
  cases h
  rfl

theorem Alike.logs : r.logs.filter shown = q.logs.filter shown := by
  cases h with
  | relog hlogs => exact hlogs

theorem Alike.agents : r.agents = q.agents := by
  cases h
  rfl

theorem Alike.traffic : r.traffic = q.traffic := by
  cases h
  rfl

theorem Alike.metrics : r.metrics = q.metrics := by
  cases h
  rfl

theorem Alike.cancelled : r.cancelled = q.cancelled := by
  cases h
  rfl

theorem Alike.agent? (address : String) : r.agent? address = q.agent? address := by
  cases h
  rfl

theorem Alike.connection? (address : String) : r.connection? address = q.connection? address := by
  cases h
  rfl

/-! ### Operations on registries that are alike -/

theorem Alike.log (entries : List Log.Entry) : Alike shown (r.log entries) (q.log entries) := by
  cases h with
  | relog hlogs => exact .relog (by simp only [Registry.log, List.filter_append, hlogs])

/-- A line that is not shown makes no difference to the one who writes it. -/
theorem Alike.log_left {entry : Log.Entry} (hentry : shown entry = false) :
    Alike shown (r.log [entry]) q := by
  cases h with
  | relog hlogs => exact .relog (by simpa [Registry.log, hentry] using hlogs)

theorem Alike.log_right {entry : Log.Entry} (hentry : shown entry = false) :
    Alike shown r (q.log [entry]) := by
  cases h with
  | relog hlogs => exact .relog (by simpa [Registry.log, hentry] using hlogs)

theorem Alike.measure (m : Metrics) : Alike shown (r.measure m) (q.measure m) := by
  cases h with
  | relog hlogs => exact .relog hlogs

theorem Alike.happened (traffic : List Traffic) :
    Alike shown (r.happened traffic) (q.happened traffic) := by
  cases h with
  | relog hlogs => exact .relog hlogs

theorem Alike.cancel (cancels : Bool) :
    Alike shown { r with cancelled := r.cancelled || cancels }
      { q with cancelled := q.cancelled || cancels } := by
  cases h with
  | relog hlogs => exact .relog hlogs

theorem Alike.put (address : String) (agent : Agent) :
    Alike shown (r.put address agent) (q.put address agent) := by
  cases h with
  | relog hlogs => exact .relog hlogs

theorem Alike.update (address : String) (f : Agent → Agent) :
    Alike shown (r.update address f) (q.update address f) := by
  unfold Registry.update
  rw [← h.agent? address]
  cases r.agent? address with
  | none => exact h
  | some agent => exact h.put address (f agent)

theorem Alike.close (address : String) : Alike shown (r.close address) (q.close address) := by
  unfold Registry.close
  rw [← h.connection? address]
  cases r.connection? address with
  | none => exact h
  | some c => exact (h.update address _).happened _

theorem Alike.attach (address : String) (c : Nat) :
    Alike shown (r.attach address c) (q.attach address c) :=
  (h.close address).update address _

theorem Alike.gauge : Alike shown r.gauge q.gauge := by
  unfold Registry.gauge size
  rw [← h.agents]
  exact h.measure _

theorem Alike.connect (address : String) :
    SameOutcome shown (r.connect net address) (q.connect net address) := by
  cases h with
  | @relog logs hlogs =>
    rcases hconnect : net.connect address r.world with ⟨_ | e, w⟩
    · rw [connect_opened net r hconnect, connect_opened net { r with logs } hconnect]
      exact ⟨rfl, .relog hlogs⟩
    · rw [connect_refused net r hconnect, connect_refused net { r with logs } hconnect]
      exact ⟨rfl, .relog hlogs⟩

theorem Alike.exchange (address : String) (c : Nat) (request : Request) :
    SameOutcome shown (r.exchange net address c request) (q.exchange net address c request) := by
  cases h with
  | relog hlogs => exact ⟨rfl, .relog hlogs⟩

theorem Alike.attempt (address : String) (request : Request) :
    SameOutcome shown (r.attempt net address request) (q.attempt net address request) := by
  unfold Registry.attempt
  rw [← h.connection? address]
  cases r.connection? address with
  | none => exact ⟨rfl, h⟩
  | some c => exact h.exchange net address c request

theorem Alike.reconnect (address : String) :
    SameOutcome shown (r.reconnect net address) (q.reconnect net address) := by
  obtain ⟨result, r', q', hr, hq, hafter⟩ := ((h.close address).connect net address).elim
  unfold Registry.reconnect
  rw [hr, hq]
  cases result with
  | error e => exact ⟨rfl, hafter.measure _⟩
  | ok c => exact ⟨rfl, ((hafter.measure _).attach address c).log _⟩

theorem Alike.getOrCreate (address : String) :
    SameOutcome shown (r.getOrCreate net address) (q.getOrCreate net address) := by
  unfold Registry.getOrCreate Registry.enter
  rw [← h.agent? address]
  cases r.agent? address with
  | some agent => exact ⟨rfl, h.log _⟩
  | none =>
    obtain ⟨result, r', q', hr, hq, hafter⟩ := (h.connect net address).elim
    rw [hr, hq]
    cases result with
    | error e => exact ⟨rfl, hafter⟩
    | ok c => exact ⟨rfl, ((hafter.put _ _).log _).gauge⟩

end

end Registry

/-- The same is asked of the same agent; whether the callers wait may differ. -/
def Envelope.SameRequest (e f : Envelope) : Prop := e.address = f.address ∧ e.request = f.request

namespace Queue

open Registry (Alike SameOutcome)

/-! ### Who waits is seen in the log only -/

/-- All lines but those about callers who stopped waiting. -/
def shown (entry : Log.Entry) : Bool :=
  entry.message ≠ "caller stopped waiting, reply discarded"

section

variable {r q : Registry ω} (h : Alike shown r q)

include h

theorem retry_alike (address : String) (request : Request) :
    SameOutcome shown (retry net address request r) (retry net address request q) := by
  obtain ⟨result, r₁, q₁, hr₁, hq₁, hreconnected⟩ := (h.reconnect net address).elim
  unfold retry
  rw [hr₁, hq₁]
  cases result with
  | error e => exact ⟨rfl, hreconnected.measure _⟩
  | ok _ =>
    obtain ⟨answer, r₂, q₂, hr₂, hq₂, hasked⟩ := (hreconnected.attempt net address request).elim
    simp only
    rw [hr₂, hq₂]
    cases answer with
    | ok response => exact ⟨rfl, hasked.measure _⟩
    | error status => exact ⟨rfl, (hasked.log _).measure _⟩

theorem ask_alike (address : String) (request : Request) :
    SameOutcome shown (ask net address request r) (ask net address request q) := by
  obtain ⟨answer, r₁, q₁, hr₁, hq₁, hasked⟩ := (h.attempt net address request).elim
  unfold ask
  rw [hr₁, hq₁]
  cases answer with
  | ok response => exact ⟨rfl, hasked.measure _⟩
  | error status => exact retry_alike net (hasked.log _) address request

theorem call_alike (address : String) (request : Request) :
    SameOutcome shown (call net address request r) (call net address request q) := by
  obtain ⟨result, r₁, q₁, hr₁, hq₁, hcreated⟩ := (h.getOrCreate net address).elim
  unfold call
  rw [hr₁, hq₁]
  cases result with
  | error e => exact ⟨rfl, hcreated.measure _⟩
  | ok _ => exact ask_alike net hcreated address request

theorem handle_alike {e f : Envelope} (hsame : e.SameRequest f) :
    SameOutcome shown (handle net e r) (handle net f q) := by
  obtain ⟨haddress, hrequest⟩ := hsame
  obtain ⟨reply, r₁, q₁, hr₁, hq₁, hcalled⟩ := (call_alike net h e.address e.request).elim
  unfold handle
  rw [← haddress, ← hrequest, hr₁, hq₁]
  refine ⟨rfl, ?_⟩
  cases e.waiting <;> cases f.waiting
  · exact (hcalled.log_left rfl).log_right rfl
  · exact hcalled.log_left rfl
  · exact hcalled.log_right rfl
  · exact hcalled

end

/-! ### Whole runs -/

theorem serve_alike {queue others : List Envelope}
    (hsame : List.Forall₂ Envelope.SameRequest queue others) {r q : Registry ω}
    (h : Alike shown r q) :
    (serve net queue r).1 = (serve net others q).1 ∧
      (serve net queue r).2.1.length = (serve net others q).2.1.length ∧
      Alike shown (serve net queue r).2.2 (serve net others q).2.2 := by
  induction hsame generalizing r q with
  | nil => exact ⟨rfl, rfl, h⟩
  | @cons e f rest others hfirst hrest ih =>
    unfold serve
    rw [← h.cancelled]
    split
    · exact ⟨rfl, congrArg (· + 1) hrest.length_eq, h⟩
    · obtain ⟨reply, r₁, q₁, hr₁, hq₁, hhandled⟩ := (handle_alike net h hfirst).elim
      obtain ⟨hreplies, hleft, hserved⟩ := ih hhandled
      rw [hr₁, hq₁]
      exact ⟨congrArg (reply :: ·) hreplies, hleft, hserved⟩

theorem reject_eq {left others : List Envelope} (h : left.length = others.length) :
    reject left = reject others := by
  simp only [reject, List.map_const', h]

theorem runUntil_alike (k : Nat) {c d : Channel}
    (hsame : List.Forall₂ Envelope.SameRequest c.queued d.queued) {r q : Registry ω}
    (h : Alike shown r q) :
    (runUntil net k c r).1 = (runUntil net k d q).1 ∧
      (runUntil net k c r).2.1 = (runUntil net k d q).2.1 ∧
      Alike shown (runUntil net k c r).2.2 (runUntil net k d q).2.2 := by
  obtain ⟨hreplies, hleft, hserved⟩ :=
    serve_alike net (List.forall₂_take k hsame) (h.log [startedEntry])
  have hlength := hsame.length_eq
  unfold runUntil
  generalize serve net (c.queued.take k) (r.log [startedEntry]) = x at *
  generalize serve net (d.queued.take k) (q.log [startedEntry]) = y at *
  obtain ⟨replies, left, r₁⟩ := x
  obtain ⟨_, others, q₁⟩ := y
  obtain rfl := hreplies
  have hrejected : (left ++ c.queued.drop k).length = (others ++ d.queued.drop k).length := by
    simp only at hleft
    simp only [List.length_append, List.length_drop]
    omega
  refine ⟨congrArg (replies ++ ·) (reject_eq hrejected), rfl, ?_⟩
  simp only [hlength, hrejected]
  exact (hserved.cancel _).log _

/-- Those who sent the envelopes at the positions `gone` have stopped waiting. -/
def Channel.leave (gone : Nat → Bool) (c : Channel) : Channel :=
  { c with queued := c.queued.mapIdx fun i e => { e with waiting := !gone i } }

/-- What the callers get to see, each in the place of their envelope. -/
def seen (c : Channel) (replies : List Reply) : List (Option Reply) :=
  List.zipWith delivered c.queued replies

theorem length_leave (c : Channel) (gone : Nat → Bool) :
    (c.leave gone).queued.length = c.queued.length := List.length_mapIdx

theorem leave_same (c : Channel) (gone others : Nat → Bool) :
    List.Forall₂ Envelope.SameRequest (c.leave gone).queued (c.leave others).queued := by
  rw [List.forall₂_iff_get]
  refine ⟨by rw [length_leave, length_leave], fun i hi hi' => ?_⟩
  simp [Channel.leave, Envelope.SameRequest]

/-- A caller who waits sees the reply. -/
theorem seen_leave {c : Channel} {gone : Nat → Bool} {replies : List Reply} {i : Nat}
    {reply : Reply} (hi : i < c.queued.length) (hgone : gone i = false)
    (hreply : replies[i]? = some reply) :
    (seen (c.leave gone) replies)[i]? = some (some reply) := by
  simp [seen, Channel.leave, List.getElem?_zipWith, hi, hreply, delivered, hgone]

/-- Whoever stops waiting makes no difference to the others, in any life of the loop: the traffic,
the records with their connections and the measurements are the same, and so is all else but the
lines of the log that tell of discarded replies; and all who wait in both lives get the same
replies. Where `k` lies behind the queue, nobody but the agents' own turns can ask for the end. -/
theorem leaving_callers_unseen (net : Network ω) (k : Nat) (c : Channel) (r : Registry ω)
    (gone others : Nat → Bool) :
    let first := runUntil net k (c.leave gone) r
    let second := runUntil net k (c.leave others) r
    first.2.2.traffic = second.2.2.traffic ∧
    first.2.2.agents = second.2.2.agents ∧
    first.2.2.metrics = second.2.2.metrics ∧
    { first.2.2 with logs := second.2.2.logs } = second.2.2 ∧
    first.2.2.logs.filter shown = second.2.2.logs.filter shown ∧
    first.2.1 = second.2.1 ∧
    first.1 = second.1 ∧
    (∀ i < c.queued.length, gone i = false → others i = false → ∃ reply,
      (seen (c.leave gone) first.1)[i]? = some (some reply) ∧
        (seen (c.leave others) second.1)[i]? = some (some reply)) ∧
    (c.queued.length ≤ k →
      first = run net (c.leave gone) r ∧ second = run net (c.leave others) r) := by
  intro first second
  obtain ⟨hreplies, hchannel, hafter⟩ :=
    runUntil_alike net k (leave_same c gone others) (.refl r)
  refine ⟨hafter.traffic, hafter.agents, hafter.metrics, hafter.eq_relog, hafter.logs, hchannel,
    hreplies, fun i hi hgone hothers => ?_, fun hk => ?_⟩
  · have hanswered : i < first.1.length := by rwa [length_runUntil, length_leave]
    have hreply : first.1[i]? = some first.1[i] := List.getElem?_eq_getElem hanswered
    have hreply' : second.1[i]? = some first.1[i] := hreplies ▸ hreply
    exact ⟨first.1[i], seen_leave hi hgone hreply, seen_leave hi hothers hreply'⟩
  · have hbehind : (c.leave gone).queued.length ≤ k := by rwa [length_leave]
    have hbehind' : (c.leave others).queued.length ≤ k := by rwa [length_leave]
    exact ⟨runUntil_of_le net hbehind r, runUntil_of_le net hbehind' r⟩

end Queue

end AgentRelay
