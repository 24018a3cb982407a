import AgentRelay.Proofs.Queue.Order
import Mathlib.Algebra.BigOperators.Group.Finset.Piecewise

/-! What the measurements of a run add up to. Every way out of a call measures the call once, with
its duration, and a reconnect at most once; so over a run the totals balance with the results of the
calls that were made. The connector's own error, with which a call ends that cannot create the
agent, is returned as it is and counts as no reconnect, even where it looks like the error of one.
-/
namespace AgentRelay

/-! ### Totals -/

namespace Metrics

/-- A call that ended so, whatever its operation. -/
def Measurement.isCall (outcome : Outcome) : Measurement → Bool
  | .call _ other => other = outcome
  | _ => false

/-- The calls that ended so, over all operations. -/
def total (m : Metrics) (outcome : Outcome) : Nat :=
  ∑ operation ∈ m.operations.toFinset, m.calls operation outcome

theorem sum_calls (m : Metrics) (outcome : Outcome) (operations : Finset String)
    (h : ∀ operation, .call operation outcome ∈ m → operation ∈ operations) :
    ∑ operation ∈ operations, m.calls operation outcome =
      m.countP (Measurement.isCall outcome) := by
  induction m with
  | nil => simp [calls]
  | cons x m ih =>
    have hrest := ih fun operation hmem => h operation (List.mem_cons_of_mem x hmem)
    simp only [calls] at hrest ⊢
    simp only [List.count_cons, Finset.sum_add_distrib, hrest, List.countP_cons]
    congr 1
    cases x with
    | call operation other =>
      by_cases hother : other = outcome
      · subst hother
        have hmem := h operation List.mem_cons_self
        simp [Measurement.isCall, hmem]
      · simp [Measurement.isCall, hother]
    | duration | reconnect | connections => simp [Measurement.isCall]

theorem total_eq (m : Metrics) (outcome : Outcome) :
    m.total outcome = m.countP (Measurement.isCall outcome) := by
  refine sum_calls m outcome _ fun operation h => ?_
  rw [List.mem_toFinset, operations, List.mem_eraseDups, List.mem_filterMap]
  exact ⟨_, h, rfl⟩

section

variable (m more : Metrics) (operation other : String) (outcome : Outcome) (success : Bool)

theorem calls_append :
    (m ++ more).calls operation outcome =
      m.calls operation outcome + more.calls operation outcome :=
  List.count_append

theorem total_append : (m ++ more).total outcome = m.total outcome + more.total outcome := by
  simp only [total_eq, List.countP_append]

theorem durations_append :
    (m ++ more).durations operation = m.durations operation + more.durations operation :=
  List.count_append

theorem reconnects_append :
    (m ++ more).reconnects success = m.reconnects success + more.reconnects success :=
  List.count_append

@[simp] theorem calls_complete (last : Outcome) :
    (complete other last).calls operation outcome =
      if other = operation ∧ last = outcome then 1 else 0 := by
  simp [calls, complete, List.count_cons]

@[simp] theorem total_complete (last : Outcome) :
    (complete other last).total outcome = if last = outcome then 1 else 0 := by
  simp [total_eq, complete, Measurement.isCall, List.countP_cons]

@[simp] theorem durations_complete :
    (complete other outcome).durations operation = if other = operation then 1 else 0 := by
  simp [durations, complete, List.count_cons]

@[simp] theorem reconnects_complete : (complete operation outcome).reconnects success = 0 := by
  simp [reconnects, complete]

@[simp] theorem calls_reconnect_cons :
    calls (.reconnect success :: m) operation outcome = m.calls operation outcome := by
  simp [calls]

@[simp] theorem total_reconnect_cons :
    total (.reconnect success :: m) outcome = m.total outcome := by
  simp [total_eq, Measurement.isCall]

@[simp] theorem durations_reconnect_cons :
    durations (.reconnect success :: m) operation = m.durations operation := by
  simp [durations]

@[simp] theorem reconnects_reconnect_cons (last : Bool) :
    reconnects (.reconnect last :: m) success =
      m.reconnects success + if last = success then 1 else 0 := by
  simp [reconnects, List.count_cons]

end

end Metrics

/-! ### Results of calls -/

def Reply.isReconnectFailed : Reply → Bool
  | .error (.reconnectFailed ..) => true
  | _ => false

def Reply.isTransport : Reply → Bool
  | .error (.transport ..) => true
  | _ => false

section

variable (response : Response) (address : String) (status : Rpc.Status) (e : Error)

@[simp] theorem isOk_ok : (.ok response : Reply).isOk = true := rfl

@[simp] theorem isOk_error : (.error e : Reply).isOk = false := rfl

@[simp] theorem isReconnectFailed_ok : Reply.isReconnectFailed (.ok response) = false := rfl

@[simp] theorem isReconnectFailed_reconnectFailed :
    Reply.isReconnectFailed (.error (.reconnectFailed address e)) = true := rfl

@[simp] theorem isReconnectFailed_transport :
    Reply.isReconnectFailed (.error (.transport address status)) = false := rfl

@[simp] theorem isTransport_ok : Reply.isTransport (.ok response) = false := rfl

@[simp] theorem isTransport_transport :
    Reply.isTransport (.error (.transport address status)) = true := rfl

@[simp] theorem isTransport_reconnectFailed :
    Reply.isTransport (.error (.reconnectFailed address e)) = false := rfl

end

namespace Queue

variable {ω : Type} (net : Network ω)

/-- A call that was made for an envelope. -/
structure Ended where
  operation : String
  reply : Reply
  /-- The agent was to be created, and the connector failed; the reply is its error. -/
  uncreated : Bool

def Ended.answered (x : Ended) : Bool := x.reply.isOk

def Ended.reconnectFailed (x : Ended) : Bool := !x.uncreated && x.reply.isReconnectFailed

def Ended.transportFailed (x : Ended) : Bool := !x.uncreated && x.reply.isTransport

/-- The measurements balance with the calls. -/
structure Balanced (m : Metrics) (calls : List Ended) : Prop where
  durations : ∀ operation, m.durations operation = calls.countP (·.operation = operation)
  results : ∀ operation, m.calls operation .success + m.calls operation .retried +
    m.calls operation .error = calls.countP (·.operation = operation)
  answered : m.total .success + m.total .retried = calls.countP Ended.answered
  failed : m.total .error = calls.countP (!·.answered)
  reconnectErrors : m.reconnects false = calls.countP Ended.reconnectFailed
  reconnectSuccesses : m.reconnects true = m.total .retried + calls.countP Ended.transportFailed

theorem Balanced.append {m more : Metrics} {calls others : List Ended} (h₁ : Balanced m calls)
    (h₂ : Balanced more others) : Balanced (m ++ more) (calls ++ others) where
  durations operation := by
    rw [Metrics.durations_append, List.countP_append, h₁.durations, h₂.durations]
  results operation := by
    have hfirst := h₁.results operation
    have hsecond := h₂.results operation
    simp only [Metrics.calls_append, List.countP_append]
    omega
  answered := by
    have hfirst := h₁.answered
    have hsecond := h₂.answered
    simp only [Metrics.total_append, List.countP_append]
    omega
  failed := by rw [Metrics.total_append, List.countP_append, h₁.failed, h₂.failed]
  reconnectErrors := by
    rw [Metrics.reconnects_append, List.countP_append, h₁.reconnectErrors, h₂.reconnectErrors]
  reconnectSuccesses := by
    have hfirst := h₁.reconnectSuccesses
    have hsecond := h₂.reconnectSuccesses
    simp only [Metrics.reconnects_append, Metrics.total_append, List.countP_append]
    omega

theorem balanced_nil : Balanced [] [] := by
  constructor <;> simp [Metrics.durations, Metrics.calls, Metrics.total_eq, Metrics.reconnects]

theorem balanced_gauge (count : Int) : Balanced [.connections count] [] := by
  constructor <;> simp [Metrics.durations, Metrics.calls, Metrics.total_eq, Metrics.reconnects,
    Metrics.Measurement.isCall]

/-! ### Ways out of a call -/

section

variable (operation : String)

theorem balanced_success (response : Response) :
    Balanced (Metrics.complete operation .success) [⟨operation, .ok response, false⟩] := by
  constructor <;> simp [Ended.answered, Ended.reconnectFailed, Ended.transportFailed]

theorem balanced_uncreated (e : Error) :
    Balanced (Metrics.complete operation .error) [⟨operation, .error e, true⟩] := by
  constructor <;> simp [Ended.answered, Ended.reconnectFailed, Ended.transportFailed]

theorem balanced_abandoned (address : String) (e : Error) :
    Balanced (.reconnect false :: Metrics.complete operation .error)
      [⟨operation, .error (.reconnectFailed address e), false⟩] := by
  constructor <;> simp [Ended.answered, Ended.reconnectFailed, Ended.transportFailed]

theorem balanced_retried (response : Response) :
    Balanced (.reconnect true :: Metrics.complete operation .retried)
      [⟨operation, .ok response, false⟩] := by
  constructor <;> simp [Ended.answered, Ended.reconnectFailed, Ended.transportFailed]

theorem balanced_failed (address : String) (status : Rpc.Status) :
    Balanced (.reconnect true :: Metrics.complete operation .error)
      [⟨operation, .error (.transport address status), false⟩] := by
  constructor <;> simp [Ended.answered, Ended.reconnectFailed, Ended.transportFailed]

end

/-! ### What a call measures -/

section

variable (address : String) (request : Request) (r : Registry ω)

theorem metrics_close : (r.close address).metrics = r.metrics := by
  rw [Registry.close_eq]

theorem metrics_connect : (r.connect net address).2.metrics = r.metrics := by
  unfold Registry.connect
  split <;> rfl

theorem metrics_attach (c : Nat) : (r.attach address c).metrics = r.metrics := by
  rw [Registry.attach, Registry.update_eq]
  exact metrics_close address r

/-- A reconnect is measured whether it succeeds or not. -/
theorem metrics_reconnect : (r.reconnect net address).2.metrics =
    r.metrics ++ [.reconnect (r.reconnect net address).1.isOk] := by
  have hconnect := metrics_connect net address (r.close address)
  rw [metrics_close] at hconnect
  unfold Registry.reconnect
  rcases heq : (r.close address).connect net address with ⟨result, q⟩
  rw [heq] at hconnect
  cases result with
  | error e => exact congrArg (· ++ _) hconnect
  | ok c =>
    refine (metrics_attach address _ c).trans ?_
    exact congrArg (· ++ _) hconnect

theorem metrics_attempt : (r.attempt net address request).2.metrics = r.metrics := by
  unfold Registry.attempt
  split <;> rfl

theorem retry_balanced : ∃ m, (retry net address request r).2.metrics = r.metrics ++ m ∧
    Balanced m [⟨request.operation, (retry net address request r).1, false⟩] := by
  have hreconnect := metrics_reconnect net address r
  unfold retry
  rcases heq : r.reconnect net address with ⟨e | _, q⟩ <;> rw [heq] at hreconnect
  · refine ⟨_, ?_, balanced_abandoned request.operation address e⟩
    exact (congrArg (· ++ _) hreconnect).trans (List.append_assoc _ _ _)
  · have hattempt := metrics_attempt net address request q
    simp only
    rcases heq' : q.attempt net address request with ⟨status | response, p⟩ <;>
      rw [heq', hreconnect] at hattempt
    · refine ⟨_, ?_, balanced_failed request.operation address status⟩
      exact (congrArg (· ++ _) hattempt).trans (List.append_assoc _ _ _)
    · refine ⟨_, ?_, balanced_retried request.operation response⟩
      exact (congrArg (· ++ _) hattempt).trans (List.append_assoc _ _ _)

theorem ask_balanced : ∃ m, (ask net address request r).2.metrics = r.metrics ++ m ∧
    Balanced m [⟨request.operation, (ask net address request r).1, false⟩] := by
  have hattempt := metrics_attempt net address request r
  unfold ask
  rcases heq : r.attempt net address request with ⟨status | response, q⟩ <;> rw [heq] at hattempt
  · obtain ⟨m, hmetrics, hbalanced⟩ := retry_balanced net address request (q.log
      [callEntry address request "call to agent failed, reconnecting" status])
    exact ⟨m, hmetrics.trans (congrArg (· ++ m) hattempt), hbalanced⟩
  · exact ⟨_, congrArg (· ++ _) hattempt, balanced_success request.operation response⟩

/-- The agent is to be created, and the connector will fail. -/
def uncreated : Bool := (r.agent? address).isNone && (net.connect address r.world).1.isSome

/-- An agent that cannot be created is an error, but no reconnect. -/
theorem call_uncreated (h : uncreated net address r = true) : ∃ e,
    (call net address request r).1 = .error e ∧ (call net address request r).2.metrics =
      r.metrics ++ Metrics.complete request.operation .error := by
  obtain ⟨hnew, hfails⟩ := Bool.and_eq_true_iff.1 h
  rcases hconnect : net.connect address r.world with ⟨_ | e, w⟩
  · simp [hconnect] at hfails
  · simp only [call, Registry.getOrCreate, Option.isNone_iff_eq_none.1 hnew, Registry.enter,
      Registry.connect_refused net r hconnect]
    exact ⟨e, rfl, rfl⟩

theorem call_balanced : ∃ m, (call net address request r).2.metrics = r.metrics ++ m ∧
    Balanced m [⟨request.operation, (call net address request r).1,
      uncreated net address r⟩] := by
  cases hun : uncreated net address r with
  | true =>
    obtain ⟨e, hreply, hmetrics⟩ := call_uncreated net address request r hun
    rw [hreply]
    exact ⟨_, hmetrics, balanced_uncreated request.operation e⟩
  | false =>
    unfold call Registry.getOrCreate
    cases h : r.agent? address with
    | some agent => exact ask_balanced net address request (r.log _)
    | none =>
      rcases hconnect : net.connect address r.world with ⟨_ | e, w⟩
      · unfold Registry.enter
        rw [h, Registry.connect_opened net r hconnect]
        obtain ⟨m, hmetrics, hbalanced⟩ := ask_balanced net address request _
        refine ⟨_, hmetrics.trans (List.append_assoc _ _ _), (balanced_gauge _).append hbalanced⟩
      · simp [uncreated, h, hconnect] at hun

end

/-! ### Runs -/

/-- The calls that are made for a queue, in its order. -/
def ended : List Envelope → Registry ω → List Ended
  | [], _ => []
  | e :: rest, r =>
    if r.cancelled then []
    else
      ⟨e.request.operation, (handle net e r).1, uncreated net e.address r⟩ ::
        ended rest (handle net e r).2

theorem handle_balanced (e : Envelope) (r : Registry ω) : ∃ m,
    (handle net e r).2.metrics = r.metrics ++ m ∧ Balanced m
      [⟨e.request.operation, (handle net e r).1, uncreated net e.address r⟩] := by
  have hcall := call_balanced net e.address e.request r
  unfold handle
  cases e.waiting <;> exact hcall

theorem serve_balanced (queue : List Envelope) (r : Registry ω) :
    (serve net queue r).1 = (ended net queue r).map Ended.reply ∧
      (serve net queue r).2.1 = queue.drop (ended net queue r).length ∧
      (ended net queue r).map Ended.operation =
        (queue.take (ended net queue r).length).map (·.request.operation) ∧
      ∃ m, (serve net queue r).2.2.metrics = r.metrics ++ m ∧
        Balanced m (ended net queue r) := by
  induction queue generalizing r with
  | nil => exact ⟨rfl, rfl, rfl, [], (List.append_nil _).symm, balanced_nil⟩
  | cons e rest ih =>
    unfold serve ended
    split
    · exact ⟨rfl, rfl, rfl, [], (List.append_nil _).symm, balanced_nil⟩
    · obtain ⟨first, hfirst, hbalanced⟩ := handle_balanced net e r
      obtain ⟨hreplies, hleft, hoperations, m, hmetrics, hrest⟩ := ih (handle net e r).2
      refine ⟨congrArg _ hreplies, hleft, congrArg _ hoperations, first ++ m, ?_,
        hbalanced.append hrest⟩
      rw [← List.append_assoc, ← hfirst]
      exact hmetrics

/-- The measurements of a run balance with the calls that were made in it, one for each envelope
that was not turned away, whoever asks for the end and at whatever turn. For every operation there
are as many results and as many durations as calls; success and retried together are the calls that
were answered, and error the others; a reconnect failed for each call that ended in that failure,
and succeeded for each call that was retried or ended in a failed retry. A connector that fails
while an agent is created makes an error and no reconnect, so its own errors, whatever they are,
stand for neither. -/
theorem measurements_of_run (net : Network ω) (k : Nat) (c : Channel) (r : Registry ω) :
    ∃ calls m,
    calls = ended net (c.queued.take k) (r.log [startedEntry]) ∧
    (runUntil net k c r).1 = calls.map Ended.reply ++ reject (c.queued.drop calls.length) ∧
    calls.map Ended.operation = (c.queued.take calls.length).map (·.request.operation) ∧
    (runUntil net k c r).2.2.metrics = r.metrics ++ m ∧
    Balanced m calls ∧
    (∀ (e : Envelope) (q : Registry ω), uncreated net e.address q = true → ∃ failure,
      (handle net e q).1 = .error failure ∧ (handle net e q).2.metrics =
        q.metrics ++ Metrics.complete e.request.operation .error) ∧
    (c.queued.length ≤ k → runUntil net k c r = run net c r) := by
  obtain ⟨hreplies, hleft, hoperations, m, hmetrics, hbalanced⟩ :=
    serve_balanced net (c.queued.take k) (r.log [startedEntry])
  have hlength := congrArg List.length hoperations
  simp only [List.length_map, List.length_take] at hlength
  have hle : (ended net (c.queued.take k) (r.log [startedEntry])).length ≤
      (c.queued.take k).length := by
    rw [List.length_take]
    omega
  refine ⟨_, m, rfl, ?_, ?_, hmetrics, hbalanced, fun e q h => ?_,
    fun hk => runUntil_of_le net hk r⟩
  · show (serve net (c.queued.take k) (r.log [startedEntry])).1 ++
      reject ((serve net (c.queued.take k) (r.log [startedEntry])).2.1 ++ c.queued.drop k) = _
    rw [hreplies, hleft, ← List.drop_append_of_le_length hle, List.take_append_drop]
  · rw [hoperations, List.take_take, Nat.min_eq_left (hle.trans (List.length_take_le k c.queued))]
  · have hcall := call_uncreated net e.address e.request q h
    unfold handle
    cases e.waiting <;> exact hcall

/-- A network on which no connection can be opened, for reasons that sound like failed calls. -/
def misleadingNetwork : Network Unit where
  connect address w := (some (if address = "127.0.0.1:8080" then
    .reconnectFailed address .shuttingDown else .transport address ⟨.unavailable, "x", []⟩), w)
  call _ _ w := ({ remote := Remote.failing ⟨.unavailable, "", []⟩ }, w)

/-- The connector's own errors are returned as they are, and no reconnect is measured for them. -/
theorem creation_failures_are_no_reconnects :
    let ends := run misleadingNetwork { queued :=
      [⟨"127.0.0.1:8080", .getState {}, true⟩, ⟨"127.0.0.2:8080", .getState {}, true⟩] }
      { world := () }
    ends.2.2.metrics.reconnects false ≠ ends.1.countP Reply.isReconnectFailed ∧
      ends.2.2.metrics.reconnects true ≠ ends.2.2.metrics.total .retried +
        ends.1.countP Reply.isTransport := by
  decide

end Queue

end AgentRelay
