import AgentRelay.Proofs.Outcome
import AgentRelay.Proofs.Queue.Conversation
import AgentRelay.Rpc.Client

/-! The queue answers every envelope, in the order of the queue, and handles none whose turn comes
after the end of all communication was asked for. Every envelope that is handled gets the reply of
its own call, made in the registry that the calls before it have left. -/
namespace AgentRelay

/-! ### The response to a request -/

/-- A response that can be taken apart as the response to the request. -/
def Request.Accepts : Request → Response → Prop
  | .getState _, response => ∃ message, response.getState? = .ok message
  | .forwardRndcCommand _, response => ∃ message, response.forwardRndcCommand? = .ok message
  | .forwardToNamedStats _, response => ∃ message, response.forwardToNamedStats? = .ok message
  | .forwardToKeaOverHttp _, response => ∃ message, response.forwardToKeaOverHttp? = .ok message
  | .tailTextFile _, response => ∃ message, response.tailTextFile? = .ok message

/-- What an agent answers is a response to the request that was put to it. -/
theorem Remote.answer_accepted {remote : Remote} {request : Request} {response : Response}
    (h : remote.answer request = .ok response) :
    request.Accepts response ∧ response.kind = request.method := by
  cases request <;>
  · obtain ⟨message, -, rfl⟩ := exists_of_map_eq_ok h
    exact ⟨⟨message, rfl⟩, rfl⟩

namespace Queue

variable {ω : Type} (net : Network ω)

section

variable {net} {address : String} {request : Request} {sent : List Traffic} {stop : Bool}
  {response : Response} {after : Registry.Scene ω}

theorem Exchanged.accepted {agent : Agent} {n : Nat} {w : ω} {reply : Reply}
    (h : Exchanged net address request agent n w sent stop reply after)
    (hreply : reply = .ok response) :
    request.Accepts response ∧ response.kind = request.method := by
  cases h with
  | answered _ _ hanswer =>
    cases hreply
    exact Remote.answer_accepted hanswer
  | abandoned => cases hreply
  | retried => exact Remote.answer_accepted (eq_ok_of_mapError_eq_ok hreply)

theorem Conversation.accepted {scene : Registry.Scene ω}
    (h : Conversation net address request scene sent stop (.ok response) after) :
    request.Accepts response ∧ response.kind = request.method := by
  cases h with
  | created _ rest => exact rest.accepted rfl
  | known rest => exact rest.accepted rfl

end

/-! ### Turns -/

/-- The registry after all envelopes of a queue were handled. -/
def handled (queue : List Envelope) (r : Registry ω) : Registry ω :=
  queue.foldl (fun r e => (handle net e r).2) r

/-- The registry when the turn of position `i` comes, all before it having been handled. -/
def before (queue : List Envelope) (r : Registry ω) (i : Nat) : Registry ω :=
  handled net (queue.take i) r

variable (queue : List Envelope) (r : Registry ω)

theorem before_succ {i : Nat} {e : Envelope} (h : queue[i]? = some e) :
    before net queue r (i + 1) = (handle net e (before net queue r i)).2 := by
  simp [before, handled, List.take_add_one, h]

theorem handle_conversation (e : Envelope) : ∃ sent stop,
    Conversation net e.address e.request (r.scene e.address) sent stop (handle net e r).1
        ((handle net e r).2.scene e.address) ∧
      (handle net e r).2.traffic = r.traffic ++ sent ∧
      (handle net e r).2.cancelled = (r.cancelled || stop) := by
  have hcall := call_conversation net e.address e.request r
  unfold handle
  cases e.waiting <;> exact hcall

/-- Once the end has been asked for, this stays so. -/
theorem cancelled_before {i j : Nat} (hij : i ≤ j) (h : (before net queue r i).cancelled = true) :
    (before net queue r j).cancelled = true := by
  induction hij with
  | refl => exact h
  | @step j _ ih =>
    cases he : queue[j]? with
    | none =>
      have hbefore : before net queue r (j + 1) = before net queue r j := by
        simp [before, List.take_add_one, he]
      rw [hbefore, ih]
    | some e =>
      obtain ⟨_, stop, _, _, hcancelled⟩ := handle_conversation net (before net queue r j) e
      rw [before_succ net queue r he, hcancelled, ih, Bool.true_or]

/-- What holds of an envelope that was handled when its turn came. -/
structure Served (i : Nat) (e : Envelope) (reply : Reply) (sent : List Traffic) : Prop where
  awaited : (before net queue r i).cancelled = false
  own : reply = (call net e.address e.request (before net queue r i)).1
  /-- The call is carried through, even where the end is asked for in the middle of it. -/
  through : ∃ stop, Conversation net e.address e.request ((before net queue r i).scene e.address)
      sent stop reply ((before net queue r (i + 1)).scene e.address) ∧
    (before net queue r (i + 1)).cancelled = stop
  accepted : ∀ response, reply = .ok response →
    e.request.Accepts response ∧ response.kind = e.request.method

/-- Handling the envelope at the front moves the turns of all others by one. -/
theorem Served.cons {e f : Envelope} {i : Nat} {reply : Reply} {sent : List Traffic}
    (h : Served net queue (handle net f r).2 i e reply sent) :
    Served net (f :: queue) r (i + 1) e reply sent := ⟨h.awaited, h.own, h.through, h.accepted⟩

theorem served_front (e : Envelope) (h : r.cancelled = false) : ∃ sent,
    Served net (e :: queue) r 0 e (handle net e r).1 sent ∧
      (handle net e r).2.traffic = r.traffic ++ sent := by
  obtain ⟨sent, stop, hrules, htraffic, hcancelled⟩ := handle_conversation net r e
  rw [h, Bool.false_or] at hcancelled
  refine ⟨sent, ⟨h, rfl, ⟨stop, hrules, hcancelled⟩, fun response hreply => ?_⟩, htraffic⟩
  rw [hreply] at hrules
  exact hrules.accepted

/-! ### Serving a queue -/

/-- The first `k` envelopes of a queue were handled, with these replies and this traffic, and the
next one, if there is one, must not be. -/
structure Progress (k : Nat) (replies : List Reply) (sent : List (List Traffic)) : Prop where
  le : k ≤ queue.length
  length_replies : replies.length = k
  length_sent : sent.length = k
  served : ∀ i e, i < k → queue[i]? = some e → ∃ reply traffic,
    replies[i]? = some reply ∧ sent[i]? = some traffic ∧ Served net queue r i e reply traffic
  traffic : (before net queue r k).traffic = r.traffic ++ sent.flatten
  stopped : k < queue.length → (before net queue r k).cancelled = true

theorem Progress.cons {e : Envelope} {k : Nat} {replies : List Reply} {sent : List (List Traffic)}
    (hopen : r.cancelled = false) (h : Progress net queue (handle net e r).2 k replies sent) :
    ∃ traffic, Progress net (e :: queue) r (k + 1) ((handle net e r).1 :: replies)
      (traffic :: sent) := by
  obtain ⟨traffic, hfront, htraffic⟩ := served_front net queue r e hopen
  refine ⟨traffic, by simp [h.le], by simp [h.length_replies], by simp [h.length_sent], ?_, ?_, ?_⟩
  · intro i f hi hf
    cases i with
    | zero =>
      cases hf
      exact ⟨_, traffic, rfl, rfl, hfront⟩
    | succ i =>
      obtain ⟨reply, own, hreply, hown, hserved⟩ := h.served i f (by omega) hf
      exact ⟨reply, own, hreply, hown, hserved.cons⟩
  · rw [List.flatten_cons, ← List.append_assoc, ← htraffic]
    exact h.traffic
  · exact fun hk => h.stopped (by simpa using hk)

theorem serve_progress : ∃ k sent, Progress net queue r k (serve net queue r).1 sent ∧
    (serve net queue r).2 = (queue.drop k, before net queue r k) := by
  induction queue generalizing r with
  | nil => exact ⟨0, [], ⟨Nat.le_refl 0, rfl, rfl, by simp, (List.append_nil _).symm, by simp⟩, rfl⟩
  | cons e rest ih =>
    cases hopen : r.cancelled with
    | true =>
      refine ⟨0, [], ?_, by simp [serve, hopen]; rfl⟩
      simp only [serve, hopen, if_true]
      exact ⟨Nat.zero_le _, rfl, rfl, by simp, (List.append_nil _).symm, fun _ => hopen⟩
    | false =>
      obtain ⟨k, sent, hprogress, hrest⟩ := ih (handle net e r).2
      obtain ⟨traffic, hprogress⟩ := hprogress.cons net rest r hopen
      refine ⟨k + 1, traffic :: sent, ?_⟩
      simp only [serve, hopen, Bool.false_eq_true, if_false]
      exact ⟨hprogress, hrest⟩

section

variable {net} {queue} {r} {k : Nat} {replies : List Reply} {sent : List (List Traffic)}

theorem Progress.awaited (h : Progress net queue r k replies sent) {i : Nat} (hi : i < k) :
    (before net queue r i).cancelled = false := by
  have hlt : i < queue.length := Nat.lt_of_lt_of_le hi h.le
  obtain ⟨_, _, _, _, hserved⟩ := h.served i queue[i] hi (List.getElem?_eq_getElem hlt)
  exact hserved.awaited

/-! ### Where serving ends -/

theorem Progress.eq_zero (h : Progress net queue r k replies sent)
    (hcancelled : r.cancelled = true) : k = 0 := by
  obtain hk | hk := Nat.eq_zero_or_pos k
  · exact hk
  · exact absurd (h.awaited hk) (by simp [before, handled, hcancelled])

theorem Progress.eq_length (h : Progress net queue r k replies sent)
    (hopen : (before net queue r k).cancelled = false) : k = queue.length := by
  obtain hk | hk := Nat.lt_or_eq_of_le h.le
  · exact absurd (h.stopped hk) (by simp [hopen])
  · exact hk

theorem Progress.eq_of_cancels (h : Progress net queue r k replies sent) {i : Nat}
    (hi : i < queue.length) (hopen : (before net queue r i).cancelled = false)
    (hcancelled : (before net queue r (i + 1)).cancelled = true) : k = i + 1 := by
  obtain hk | hk := Nat.lt_or_ge i k
  · obtain hk | rfl := Nat.lt_or_eq_of_le hk
    · exact absurd (h.awaited hk) (by simp [hcancelled])
    · rfl
  · have hmore := cancelled_before net queue r hk (h.stopped (by omega))
    exact absurd hopen (by simp [hmore])

/-! ### What is left is turned away -/

theorem Progress.length_answers (h : Progress net queue r k replies sent) :
    (replies ++ reject (queue.drop k)).length = queue.length := by
  have hle := h.le
  simp only [reject, List.length_append, List.length_map, List.length_drop, h.length_replies]
  omega

theorem Progress.answer_of_lt (h : Progress net queue r k replies sent) {i : Nat} (hi : i < k) :
    (replies ++ reject (queue.drop k))[i]? = replies[i]? :=
  List.getElem?_append_left (by rw [h.length_replies]; exact hi)

theorem Progress.answer_of_ge (h : Progress net queue r k replies sent) {i : Nat} (hk : k ≤ i)
    (hi : i < queue.length) :
    (replies ++ reject (queue.drop k))[i]? = some (.error .shuttingDown) := by
  have hleft : i - k < (queue.drop k).length := by
    rw [List.length_drop]
    omega
  rw [List.getElem?_append_right (by rw [h.length_replies]; exact hk), h.length_replies, reject,
    List.getElem?_map, List.getElem?_eq_getElem hleft]
  rfl

end

/-! ### The whole life of the loop -/

theorem run_progress (c : Channel) : ∃ k replies sent,
    Progress net c.queued (r.log [startedEntry]) k replies sent ∧
      run net c r = (replies ++ reject (c.queued.drop k), { queued := [], closed := true },
        (before net c.queued (r.log [startedEntry]) k).log
          [stoppedEntry (c.queued.drop k).length]) := by
  obtain ⟨k, sent, h, hrest⟩ := serve_progress net c.queued (r.log [startedEntry])
  have hserve : serve net c.queued (r.log [startedEntry]) =
      ((serve net c.queued (r.log [startedEntry])).1, c.queued.drop k,
        before net c.queued (r.log [startedEntry]) k) := by rw [← hrest]
  refine ⟨k, _, sent, h, ?_⟩
  rw [run, hserve]

/-- Every envelope is answered once and in its place. Those before position `k` are handled one
after another, each with the reply and the traffic of its own call; the others are turned away and
cause no traffic. The position is the end of the queue unless the end of all communication is asked
for, and then that of the envelope after the one during whose call this happened. Nothing is
accepted afterwards. -/
theorem run_in_order (net : Network ω) (c : Channel) (r : Registry ω) :
    ∃ (k : Nat) (sent : List (List Traffic)),
    k ≤ c.queued.length ∧
    (run net c r).1.length = c.queued.length ∧
    (∀ i e, i < k → c.queued[i]? = some e → ∃ reply traffic,
      (run net c r).1[i]? = some reply ∧ sent[i]? = some traffic ∧
        Served net c.queued (r.log [startedEntry]) i e reply traffic) ∧
    (∀ i, k ≤ i → i < c.queued.length → (run net c r).1[i]? = some (.error .shuttingDown)) ∧
    sent.length = k ∧
    (run net c r).2.2.traffic = r.traffic ++ sent.flatten ∧
    (r.cancelled = true → k = 0) ∧
    ((run net c r).2.2.cancelled = false → k = c.queued.length) ∧
    (∀ i < c.queued.length,
      (before net c.queued (r.log [startedEntry]) i).cancelled = false ∧
          (before net c.queued (r.log [startedEntry]) (i + 1)).cancelled = true ↔
        k = i + 1 ∧ (run net c r).2.2.cancelled = true) ∧
    (run net c r).2.1 = { queued := [], closed := true } ∧
    ∀ e, (run net c r).2.1.send? e = none := by
  obtain ⟨k, replies, sent, h, hrun⟩ := run_progress net r c
  simp only [hrun, Registry.traffic_log, Registry.cancelled_log]
  refine ⟨k, sent, h.le, h.length_answers, ?_, fun i hk hi => h.answer_of_ge hk hi, h.length_sent,
    h.traffic, h.eq_zero, h.eq_length, ?_, trivial, fun _ => rfl⟩
  · intro i e hi he
    rw [h.answer_of_lt hi]
    exact h.served i e hi he
  · intro i hi
    constructor
    · rintro ⟨hopen, hcancelled⟩
      obtain rfl := h.eq_of_cancels hi hopen hcancelled
      exact ⟨rfl, hcancelled⟩
    · rintro ⟨rfl, hcancelled⟩
      exact ⟨h.awaited (Nat.lt_succ_self i), hcancelled⟩

/-! ### An end that others ask for -/

theorem length_serve (queue : List Envelope) (r : Registry ω) :
    (serve net queue r).1.length + (serve net queue r).2.1.length = queue.length := by
  obtain ⟨k, sent, h, hrest⟩ := serve_progress net queue r
  have hle := h.le
  rw [hrest, h.length_replies, List.length_drop]
  omega

/-- The life of the loop when somebody else asks for the end, before the turn of position `k`. The
position may lie behind the queue; then the end is not asked for from elsewhere. -/
def runUntil (k : Nat) (c : Channel) (r : Registry ω) : List Reply × Channel × Registry ω :=
  let (replies, left, r) := serve net (c.queued.take k) (r.log [startedEntry])
  let left := left ++ c.queued.drop k
  (replies ++ reject left, { queued := [], closed := true },
    { r with cancelled := r.cancelled || k < c.queued.length }.log [stoppedEntry left.length])

theorem runUntil_of_le {k : Nat} {c : Channel} (h : c.queued.length ≤ k) (r : Registry ω) :
    runUntil net k c r = run net c r := by
  have hnever : decide (k < c.queued.length) = false := decide_eq_false (Nat.not_lt.2 h)
  unfold runUntil run
  rw [List.take_of_length_le h, List.drop_of_length_le h, hnever]
  simp only [List.append_nil, Bool.or_false]

theorem length_runUntil (k : Nat) (c : Channel) (r : Registry ω) :
    (runUntil net k c r).1.length = c.queued.length := by
  have hserve := length_serve net (c.queued.take k) (r.log [startedEntry])
  unfold runUntil
  rcases heq : serve net (c.queued.take k) (r.log [startedEntry]) with ⟨replies, left, q⟩
  simp only [heq, List.length_take] at hserve
  simp only [reject, List.length_append, List.length_map, List.length_drop]
  omega

end Queue

end AgentRelay
