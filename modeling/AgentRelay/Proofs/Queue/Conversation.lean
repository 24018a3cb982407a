import AgentRelay.Proofs.Registry.Effects
import AgentRelay.Queue

/-! What one queued request makes the relay do, said by rules that name only the network and the
record of the address: creation of the record, the first attempt, one reconnect and one retry. The
rules fix traffic, reply and record, and a call follows them. Nothing is said here about
measurements and the log. -/
namespace AgentRelay.Queue

open Registry (Scene hangUp)

variable {ω : Type} (net : Network ω) (address : String) (request : Request)

/-! ### Rules -/

/-- A first attempt that leads to no response: what is put to the agent in it, whether the end of
all communication is asked for meanwhile, and the world afterwards. -/
inductive Fruitless (agent : Agent) : ω → List Traffic → Bool → ω → Prop where
  | disconnected {w : ω} (hc : agent.connection = none) : Fruitless agent w [] false w
  | failed {w w₁ : ω} {c : Nat} {turn : Turn} {status : Rpc.Status}
      (hc : agent.connection = some c) (hcall : net.call address c w = (turn, w₁))
      (hanswer : turn.remote.answer request = .error status) :
      Fruitless agent w [.called c address request] turn.cancels w₁

/-- A request to an agent that is known. Whether the end is asked for changes nothing in it. -/
inductive Exchanged (agent : Agent) (n : Nat) :
    ω → List Traffic → Bool → Reply → Scene ω → Prop where
  | answered {w w₁ : ω} {c : Nat} {turn : Turn} {response : Response}
      (hc : agent.connection = some c) (hcall : net.call address c w = (turn, w₁))
      (hanswer : turn.remote.answer request = .ok response) :
      Exchanged agent n w [.called c address request] turn.cancels (.ok response)
        ⟨w₁, some agent, n⟩
  | abandoned {w w₁ w₂ : ω} {sent : List Traffic} {stop : Bool} {e : Error}
      (first : Fruitless net address request agent w sent stop w₁)
      (hconnect : net.connect address w₁ = (some e, w₂)) :
      Exchanged agent n w (sent ++ hangUp agent ++ [.refused address e]) stop
        (.error (.reconnectFailed address e)) ⟨w₂, some { agent with connection := none }, n⟩
  | retried {w w₁ w₂ w₃ : ω} {sent : List Traffic} {stop : Bool} {turn : Turn}
      (first : Fruitless net address request agent w sent stop w₁)
      (hconnect : net.connect address w₁ = (none, w₂))
      (hcall : net.call address (n + 1) w₂ = (turn, w₃)) :
      Exchanged agent n w
        (sent ++ hangUp agent ++ [.connected address (n + 1), .called (n + 1) address request])
        (stop || turn.cancels) ((turn.remote.answer request).mapError (.transport address))
        ⟨w₃, some { agent with connection := some (n + 1) }, n + 1⟩

/-- A request to an agent that may have to be created first. -/
inductive Conversation : Scene ω → List Traffic → Bool → Reply → Scene ω → Prop where
  | refused {w w₁ : ω} {n : Nat} {e : Error} (hconnect : net.connect address w = (some e, w₁)) :
      Conversation ⟨w, none, n⟩ [.refused address e] false (.error e) ⟨w₁, none, n⟩
  | created {w w₁ : ω} {n : Nat} {sent : List Traffic} {stop : Bool} {reply : Reply}
      {after : Scene ω} (hconnect : net.connect address w = (none, w₁))
      (rest : Exchanged net address request (.create address (n + 1)) (n + 1) w₁ sent stop reply
        after) :
      Conversation ⟨w, none, n⟩ (.connected address (n + 1) :: sent) stop reply after
  | known {w : ω} {agent : Agent} {n : Nat} {sent : List Traffic} {stop : Bool} {reply : Reply}
      {after : Scene ω} (rest : Exchanged net address request agent n w sent stop reply after) :
      Conversation ⟨w, some agent, n⟩ sent stop reply after

variable {net address request}

/-! ### The rules leave no choice -/

theorem Fruitless.unique {agent : Agent} {w w₁ w₂ : ω} {sent₁ sent₂ : List Traffic}
    {stop₁ stop₂ : Bool} (h₁ : Fruitless net address request agent w sent₁ stop₁ w₁)
    (h₂ : Fruitless net address request agent w sent₂ stop₂ w₂) :
    sent₁ = sent₂ ∧ stop₁ = stop₂ ∧ w₁ = w₂ := by
  cases h₁ <;> cases h₂ <;> simp_all

theorem Fruitless.not_answered {agent : Agent} {w w₁ w₂ : ω} {sent : List Traffic} {stop : Bool}
    {c : Nat} {turn : Turn} {response : Response}
    (h : Fruitless net address request agent w sent stop w₁)
    (hc : agent.connection = some c) (hcall : net.call address c w = (turn, w₂))
    (hanswer : turn.remote.answer request = .ok response) : False := by
  cases h <;> simp_all

theorem Exchanged.unique {agent : Agent} {n : Nat} {w : ω} {sent₁ sent₂ : List Traffic}
    {stop₁ stop₂ : Bool} {reply₁ reply₂ : Reply} {after₁ after₂ : Scene ω}
    (h₁ : Exchanged net address request agent n w sent₁ stop₁ reply₁ after₁)
    (h₂ : Exchanged net address request agent n w sent₂ stop₂ reply₂ after₂) :
    sent₁ = sent₂ ∧ stop₁ = stop₂ ∧ reply₁ = reply₂ ∧ after₁ = after₂ := by
  cases h₁ with
  | answered hc hcall hanswer =>
    cases h₂ with
    | answered hc' hcall' hanswer' => simp_all
    | abandoned first _ => exact (first.not_answered hc hcall hanswer).elim
    | retried first _ _ => exact (first.not_answered hc hcall hanswer).elim
  | abandoned first hconnect =>
    cases h₂ with
    | answered hc hcall hanswer => exact (first.not_answered hc hcall hanswer).elim
    | abandoned first' hconnect' => obtain ⟨rfl, rfl, rfl⟩ := first.unique first'; simp_all
    | retried first' hconnect' _ => obtain ⟨rfl, rfl, rfl⟩ := first.unique first'; simp_all
  | retried first hconnect hcall =>
    cases h₂ with
    | answered hc hcall' hanswer => exact (first.not_answered hc hcall' hanswer).elim
    | abandoned first' hconnect' => obtain ⟨rfl, rfl, rfl⟩ := first.unique first'; simp_all
    | retried first' hconnect' hcall' => obtain ⟨rfl, rfl, rfl⟩ := first.unique first'; simp_all

theorem Conversation.unique {before after₁ after₂ : Scene ω} {sent₁ sent₂ : List Traffic}
    {stop₁ stop₂ : Bool} {reply₁ reply₂ : Reply}
    (h₁ : Conversation net address request before sent₁ stop₁ reply₁ after₁)
    (h₂ : Conversation net address request before sent₂ stop₂ reply₂ after₂) :
    sent₁ = sent₂ ∧ stop₁ = stop₂ ∧ reply₁ = reply₂ ∧ after₁ = after₂ := by
  cases h₁ with
  | refused hconnect => cases h₂ <;> simp_all
  | created hconnect rest =>
    cases h₂ with
    | refused hconnect' => simp_all
    | created hconnect' rest' =>
      obtain rfl := (Prod.mk.inj (hconnect.symm.trans hconnect')).2
      obtain ⟨rfl, rfl, rfl, rfl⟩ := rest.unique rest'
      exact ⟨rfl, rfl, rfl, rfl⟩
  | known rest => cases h₂ with | known rest' => exact rest.unique rest'

/-! ### A call follows the rules -/

section

variable {r : Registry ω} {agent : Agent} (net request)

theorem retry_refused (h : r.agent? address = some agent) {e : Error} {w : ω}
    (hconnect : net.connect address r.world = (some e, w)) :
    (retry net address request r).1 = .error (.reconnectFailed address e) ∧
      (retry net address request r).2.scene address =
        ⟨w, some { agent with connection := none }, r.opened⟩ ∧
      (retry net address request r).2.traffic =
        r.traffic ++ hangUp agent ++ [.refused address e] ∧
      (retry net address request r).2.cancelled = r.cancelled := by
  have hr := Registry.reconnect_refused h hconnect
  have hcancelled := Registry.cancelled_reconnect net r address
  unfold retry
  rcases heq : r.reconnect net address with ⟨result, q⟩
  rw [heq] at hr hcancelled
  obtain ⟨rfl, hscene, htraffic⟩ := hr
  exact ⟨rfl, hscene, htraffic, hcancelled⟩

theorem retry_opened (h : r.agent? address = some agent) {w w₁ : ω} {turn : Turn}
    (hconnect : net.connect address r.world = (none, w))
    (hcall : net.call address (r.opened + 1) w = (turn, w₁)) :
    (retry net address request r).1 =
        (turn.remote.answer request).mapError (.transport address) ∧
      (retry net address request r).2.scene address =
        ⟨w₁, some { agent with connection := some (r.opened + 1) }, r.opened + 1⟩ ∧
      (retry net address request r).2.traffic = r.traffic ++ hangUp agent ++
        [.connected address (r.opened + 1), .called (r.opened + 1) address request] ∧
      (retry net address request r).2.cancelled = (r.cancelled || turn.cancels) := by
  have hr := Registry.reconnect_opened h hconnect
  have hcancelled := Registry.cancelled_reconnect net r address
  unfold retry
  rcases heq : r.reconnect net address with ⟨result, q⟩
  rw [heq] at hr hcancelled
  obtain ⟨rfl, hscene, htraffic⟩ := hr
  simp only [Registry.scene, Scene.mk.injEq] at hscene
  obtain ⟨rfl, hagent, hopened⟩ := hscene
  have hattempt := (Registry.attempt_connected net q hagent rfl request).trans
    (Registry.exchange_eq net q (r.opened + 1) request hcall)
  simp only at htraffic hcancelled ⊢
  rw [hattempt]
  cases turn.remote.answer request with
  | ok response =>
    refine ⟨rfl, ?_, by simp [htraffic], by simp [hcancelled]⟩
    exact Scene.mk.injEq .. ▸ ⟨rfl, hagent, hopened⟩
  | error status =>
    refine ⟨rfl, ?_, by simp [htraffic], by simp [hcancelled]⟩
    exact Scene.mk.injEq .. ▸ ⟨rfl, hagent, hopened⟩

/-- After a first attempt without a response, the retry takes its place in the rules. -/
theorem retry_exchanged {q : Registry ω} {w : ω} {sent : List Traffic} {stop : Bool}
    (first : Fruitless net address request agent w sent stop q.world)
    (h : q.agent? address = some agent) : ∃ rest more,
    Exchanged net address request agent q.opened w (sent ++ rest) (stop || more)
        (retry net address request q).1 ((retry net address request q).2.scene address) ∧
      (retry net address request q).2.traffic = q.traffic ++ rest ∧
      (retry net address request q).2.cancelled = (q.cancelled || more) := by
  rcases hconnect : net.connect address q.world with ⟨_ | e, w₁⟩
  · rcases hcall : net.call address (q.opened + 1) w₁ with ⟨turn, w₂⟩
    obtain ⟨hreply, hscene, htraffic, hcancelled⟩ := retry_opened net request h hconnect hcall
    rw [hreply, hscene, htraffic]
    refine ⟨hangUp agent ++ [.connected address (q.opened + 1),
      .called (q.opened + 1) address request], turn.cancels, ?_, by simp, hcancelled⟩
    simpa using Exchanged.retried first hconnect hcall
  · obtain ⟨hreply, hscene, htraffic, hcancelled⟩ := retry_refused net request h hconnect
    rw [hreply, hscene, htraffic]
    refine ⟨hangUp agent ++ [.refused address e], false, ?_, by simp, by simp [hcancelled]⟩
    simpa using Exchanged.abandoned (n := q.opened) first hconnect

theorem ask_exchanged (h : r.agent? address = some agent) : ∃ sent stop,
    Exchanged net address request agent r.opened r.world sent stop (ask net address request r).1
        ((ask net address request r).2.scene address) ∧
      (ask net address request r).2.traffic = r.traffic ++ sent ∧
      (ask net address request r).2.cancelled = (r.cancelled || stop) := by
  unfold ask
  cases hc : agent.connection with
  | none =>
    rw [Registry.attempt_disconnected net r h hc]
    obtain ⟨sent, stop, hrules, htraffic, hcancelled⟩ := retry_exchanged net request (q := r.log
      [callEntry address request "call to agent failed, reconnecting"
        ⟨.unavailable, "connection closed", []⟩]) (.disconnected hc) h
    exact ⟨sent, false || stop, hrules, htraffic, by simpa using hcancelled⟩
  | some c =>
    rcases hcall : net.call address c r.world with ⟨turn, w⟩
    rw [Registry.attempt_connected net r h hc, Registry.exchange_eq net r c request hcall]
    cases hanswer : turn.remote.answer request with
    | ok response =>
      refine ⟨[.called c address request], turn.cancels, ?_, rfl, rfl⟩
      have hscene : Exchanged net address request agent r.opened r.world
          [.called c address request] turn.cancels (.ok response)
          ⟨w, r.agent? address, r.opened⟩ := by
        rw [h]
        exact .answered hc hcall hanswer
      exact hscene
    | error status =>
      obtain ⟨rest, more, hrules, htraffic, hcancelled⟩ := retry_exchanged net request
        (q := ({ r with world := w, cancelled := r.cancelled || turn.cancels }.happened
          [.called c address request]).log
            [callEntry address request "call to agent failed, reconnecting" status])
        (.failed hc hcall hanswer) h
      refine ⟨_, _, hrules, ?_, ?_⟩
      · rw [htraffic]
        exact List.append_assoc ..
      · rw [hcancelled]
        exact Bool.or_assoc ..

theorem call_conversation (address : String) (request : Request) (r : Registry ω) : ∃ sent stop,
    Conversation net address request (r.scene address) sent stop (call net address request r).1
        ((call net address request r).2.scene address) ∧
      (call net address request r).2.traffic = r.traffic ++ sent ∧
      (call net address request r).2.cancelled = (r.cancelled || stop) := by
  unfold call Registry.getOrCreate
  cases h : r.agent? address with
  | some agent =>
    obtain ⟨sent, stop, hrules, hrest⟩ := ask_exchanged net request (r := r.log
      [⟨.debug, "using existing agent connection", [("agent", .text address)]⟩]) h
    refine ⟨sent, stop, ?_, hrest⟩
    rw [Registry.scene, h]
    exact .known hrules
  | none =>
    unfold Registry.enter
    rw [Registry.scene, h]
    rcases hconnect : net.connect address r.world with ⟨_ | e, w⟩
    · rw [Registry.connect_opened net r hconnect]
      have hput : (({ r with world := w, opened := r.opened + 1 }.happened
          [.connected address (r.opened + 1)]).put address
            (.create address (r.opened + 1))).agent? address =
              some (.create address (r.opened + 1)) := Registry.agent?_put _ _
      obtain ⟨sent, stop, hrules, htraffic, hcancelled⟩ := ask_exchanged net request (r :=
        ((({ r with world := w, opened := r.opened + 1 }.happened
          [.connected address (r.opened + 1)]).put address
            (.create address (r.opened + 1))).log
              [⟨.info, "connecting to new agent", [("agent", .text address)]⟩]).gauge) hput
      refine ⟨.connected address (r.opened + 1) :: sent, stop, .created hconnect hrules, ?_,
        hcancelled⟩
      exact htraffic.trans (List.append_assoc ..)
    · rw [Registry.connect_refused net r hconnect]
      refine ⟨[.refused address e], false, ?_, rfl, (Bool.or_false _).symm⟩
      have hscene : Conversation net address request ⟨r.world, none, r.opened⟩
          [.refused address e] false (.error e) ⟨w, r.agent? address, r.opened⟩ := by
        rw [h]
        exact .refused hconnect
      exact hscene

end

/-! ### Records of other addresses -/

section

variable (net) (r : Registry ω) {other : String}

theorem agent?_retry_of_ne (h : other ≠ address) :
    (retry net address request r).2.agent? other = r.agent? other := by
  have hreconnect := Registry.agent?_reconnect_of_ne net r h
  unfold retry
  split <;> rename_i q heq <;> rw [heq] at hreconnect
  · exact hreconnect
  · have hattempt := Registry.agent?_attempt net q address request other
    split <;> rename_i p heq <;> rw [heq] at hattempt <;> exact hattempt.trans hreconnect

theorem agent?_ask_of_ne (h : other ≠ address) :
    (ask net address request r).2.agent? other = r.agent? other := by
  have hattempt := Registry.agent?_attempt net r address request other
  unfold ask
  split <;> rename_i q heq <;> rw [heq] at hattempt
  · exact hattempt
  · refine (agent?_retry_of_ne net _ h).trans ?_
    exact hattempt

theorem agent?_call_of_ne (h : other ≠ address) :
    (call net address request r).2.agent? other = r.agent? other := by
  have hcreate := Registry.agent?_getOrCreate_of_ne net r h
  unfold call
  split <;> rename_i q heq <;> rw [heq] at hcreate
  · exact hcreate
  · exact (agent?_ask_of_ne net _ h).trans hcreate

end

/-! ### How much traffic there can be -/

def isCall : Traffic → Bool
  | .called .. => true
  | _ => false

/-- Whether a connection was asked for, with or without success. -/
def isConnect : Traffic → Bool
  | .connected .. | .refused .. => true
  | _ => false

theorem count_hangUp (agent : Agent) :
    (hangUp agent).countP isCall = 0 ∧ (hangUp agent).countP isConnect = 0 := by
  unfold hangUp
  cases agent.connection <;> simp [isCall, isConnect]

theorem Fruitless.count {agent : Agent} {w w₁ : ω} {sent : List Traffic} {stop : Bool}
    (h : Fruitless net address request agent w sent stop w₁) :
    sent.countP isCall ≤ 1 ∧ sent.countP isConnect = 0 := by
  cases h <;> simp [isCall, isConnect]

theorem Exchanged.count {agent : Agent} {n : Nat} {w : ω} {sent : List Traffic} {stop : Bool}
    {reply : Reply} {after : Scene ω}
    (h : Exchanged net address request agent n w sent stop reply after) :
    sent.countP isCall ≤ 2 ∧ sent.countP isConnect ≤ 1 := by
  obtain ⟨hcall, hconnect⟩ := count_hangUp agent
  cases h with
  | answered => simp [isCall, isConnect]
  | abandoned first =>
    obtain ⟨hcall₁, hconnect₁⟩ := first.count
    simp [hcall, hconnect, hconnect₁, isCall, isConnect]
    omega
  | retried first =>
    obtain ⟨hcall₁, hconnect₁⟩ := first.count
    simp [List.countP_cons, hcall, hconnect, hconnect₁, isCall, isConnect]
    omega

theorem Conversation.count {before after : Scene ω} {sent : List Traffic} {stop : Bool}
    {reply : Reply} (h : Conversation net address request before sent stop reply after) :
    sent.countP isCall ≤ 2 ∧ sent.countP isConnect ≤ if before.agent.isNone then 2 else 1 := by
  cases h with
  | refused => simp [isCall, isConnect]
  | created _ rest =>
    obtain ⟨hcall, hconnect⟩ := rest.count
    simp [List.countP_cons, isCall, isConnect, *]
  | known rest => simpa using rest.count

/-! ### What is put to the agent -/

/-- Every call puts the request to the agent at the address. -/
def OnlyCalls (address : String) (request : Request) (sent : List Traffic) : Prop :=
  ∀ c other asked, .called c other asked ∈ sent → other = address ∧ asked = request

/-- There is a call, or a connection that could not be opened. -/
def CalledOrRefused (address : String) (request : Request) (sent : List Traffic) : Prop :=
  (∃ c, .called c address request ∈ sent) ∨ ∃ e, .refused address e ∈ sent

theorem called_notMem_hangUp (agent : Agent) (c : Nat) (other : String) (asked : Request) :
    .called c other asked ∉ hangUp agent := by
  unfold hangUp
  simp

theorem Fruitless.onlyCalls {agent : Agent} {w w₁ : ω} {sent : List Traffic} {stop : Bool}
    (h : Fruitless net address request agent w sent stop w₁) :
    OnlyCalls address request sent := by
  cases h <;> simp [OnlyCalls]

theorem Exchanged.onlyCalls {agent : Agent} {n : Nat} {w : ω} {sent : List Traffic} {stop : Bool}
    {reply : Reply} {after : Scene ω}
    (h : Exchanged net address request agent n w sent stop reply after) :
    OnlyCalls address request sent := by
  intro c other asked hcall
  cases h with
  | answered => simp_all
  | abandoned first =>
    simp only [List.mem_append, called_notMem_hangUp, List.mem_singleton, reduceCtorEq,
      or_false] at hcall
    exact first.onlyCalls c other asked hcall
  | retried first =>
    simp only [List.mem_append, called_notMem_hangUp, or_false] at hcall
    obtain hcall | hcall := hcall
    · exact first.onlyCalls c other asked hcall
    · simp_all

theorem Exchanged.calledOrRefused {agent : Agent} {n : Nat} {w : ω} {sent : List Traffic}
    {stop : Bool} {reply : Reply} {after : Scene ω}
    (h : Exchanged net address request agent n w sent stop reply after) :
    CalledOrRefused address request sent := by
  cases h with
  | answered => exact .inl ⟨_, List.mem_singleton_self _⟩
  | abandoned => exact .inr ⟨_, List.mem_append_right _ (List.mem_singleton_self _)⟩
  | retried => exact .inl ⟨n + 1, List.mem_append_right _ (by simp)⟩

theorem Conversation.onlyCalls {before after : Scene ω} {sent : List Traffic} {stop : Bool}
    {reply : Reply} (h : Conversation net address request before sent stop reply after) :
    OnlyCalls address request sent := by
  cases h with
  | refused => simp [OnlyCalls]
  | created _ rest => simpa [OnlyCalls] using rest.onlyCalls
  | known rest => exact rest.onlyCalls

theorem Conversation.calledOrRefused {before after : Scene ω} {sent : List Traffic} {stop : Bool}
    {reply : Reply} (h : Conversation net address request before sent stop reply after) :
    CalledOrRefused address request sent := by
  cases h with
  | refused => exact .inr ⟨_, List.mem_singleton_self _⟩
  | created _ rest =>
    exact rest.calledOrRefused.imp (fun ⟨c, hc⟩ => ⟨c, List.mem_cons_of_mem _ hc⟩)
      fun ⟨e, he⟩ => ⟨e, List.mem_cons_of_mem _ he⟩
  | known rest => exact rest.calledOrRefused

/-! ### Records without a connection -/

theorem mapError_transport_ne (address : String) (x : Except Rpc.Status Response) (e : Error) :
    x.mapError (Error.transport address) ≠ .error (.reconnectFailed address e) := by
  cases x <;> intro h <;> cases h

theorem Exchanged.disconnected_iff {agent kept : Agent} {n : Nat} {w : ω} {sent : List Traffic}
    {stop : Bool} {reply : Reply} {after : Scene ω}
    (h : Exchanged net address request agent n w sent stop reply after)
    (hafter : after.agent = some kept) :
    kept.connection = none ↔ ∃ e, reply = .error (.reconnectFailed address e) := by
  cases h with
  | answered hc =>
    cases hafter
    simp [hc]
  | abandoned =>
    cases hafter
    simp
  | retried =>
    cases hafter
    simp [mapError_transport_ne]

theorem Conversation.disconnected_iff {kept : Agent} {before after : Scene ω}
    {sent : List Traffic} {stop : Bool} {reply : Reply}
    (h : Conversation net address request before sent stop reply after)
    (hafter : after.agent = some kept) :
    kept.connection = none ↔ ∃ e, reply = .error (.reconnectFailed address e) := by
  cases h with
  | refused => cases hafter
  | created _ rest => exact rest.disconnected_iff hafter
  | known rest => exact rest.disconnected_iff hafter

/-! ### The protocol of a call -/

/-- The rules describe a call completely: they allow the traffic, reply and record that it leads to,
and nothing else. It asks the agent twice at most and reconnects once at most; the agent is left
without a connection exactly when the reconnect has failed; and the records of all other addresses
stay as they are. -/
theorem call_iff_conversation (net : Network ω) (address : String) (request : Request)
    (r : Registry ω) : ∃ sent stop,
    (∀ sent₁ stop₁ reply after,
      Conversation net address request (r.scene address) sent₁ stop₁ reply after ↔
        sent₁ = sent ∧ stop₁ = stop ∧ reply = (call net address request r).1 ∧
          after = (call net address request r).2.scene address) ∧
    (call net address request r).2.traffic = r.traffic ++ sent ∧
    (call net address request r).2.cancelled = (r.cancelled || stop) ∧
    sent.countP isCall ≤ 2 ∧
    sent.countP isConnect ≤ (if (r.agent? address).isNone then 2 else 1) ∧
    (∀ agent, (call net address request r).2.agent? address = some agent →
      (agent.connection = none ↔
        ∃ e, (call net address request r).1 = .error (.reconnectFailed address e))) ∧
    ∀ other ≠ address, (call net address request r).2.agent? other = r.agent? other := by
  obtain ⟨sent, stop, hrules, htraffic, hcancelled⟩ := call_conversation net address request r
  obtain ⟨hcalls, hconnects⟩ := hrules.count
  refine ⟨sent, stop, fun sent₁ stop₁ reply after => ⟨fun h => h.unique hrules, ?_⟩,
    htraffic, hcancelled, hcalls, hconnects, fun agent hagent => hrules.disconnected_iff hagent,
    fun other h => agent?_call_of_ne net r h⟩
  rintro ⟨rfl, rfl, rfl, rfl⟩
  exact hrules

end AgentRelay.Queue
