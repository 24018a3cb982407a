import AgentRelay.Proofs.Ordered
import AgentRelay.Proofs.Queue.Conversation
import AgentRelay.Proofs.Traffic
import Mathlib.Logic.Function.Basic

/-! Which record holds which connection. The traffic of a registry is orderly, and its records hold
exactly the live connections, each for the address it was opened to. A single event keeps this, so a
conversation does, and with it every operation of the registry and every call of the queue. -/
namespace AgentRelay

open Registry (Scene hangUp)
open Queue (Fruitless Exchanged Conversation)

/-! ### Events -/

namespace Traffic

/-- Traffic with connections numbered up to `opened`, after which every address holds the live
connection that was opened to it, and nothing else. -/
structure Kept (traffic : List Traffic) (opened : Nat) (held : String → Option Nat) : Prop where
  orderly : Orderly traffic
  issued : ∀ e ∈ traffic, ∀ c, e.connection? = some c → c ≤ opened
  held_iff : ∀ address c, held address = some c ↔ Live traffic address c

section

variable {traffic : List Traffic} {opened : Nat} {held : String → Option Nat} {address : String}
  (h : Kept traffic opened held)

theorem kept_nil : Kept [] 0 fun _ => none :=
  ⟨.nil, fun _ he => absurd he List.not_mem_nil, fun _ _ => by simp [Live]⟩

include h

/-- No connection is held for two addresses. -/
theorem Kept.injective {other : String} {c : Nat} (hc : held address = some c)
    (hother : held other = some c) : address = other :=
  h.orderly.exclusive ((h.held_iff _ _).1 hc) ((h.held_iff _ _).1 hother)

theorem Kept.next {e : Traffic} {opened' : Nat} {held' : String → Option Nat}
    (he : Allowed traffic e) (hle : opened ≤ opened')
    (hissued : ∀ c, e.connection? = some c → c ≤ opened')
    (hheld : ∀ address c, held' address = some c ↔ Live (traffic ++ [e]) address c) :
    Kept (traffic ++ [e]) opened' held' := by
  refine ⟨h.orderly.next he, fun f hf c hc => ?_, hheld⟩
  obtain hf | hf := List.mem_append.1 hf
  · exact Nat.le_trans (h.issued f hf c hc) hle
  · obtain rfl := List.mem_singleton.1 hf
    exact hissued c hc

theorem Kept.refused (address : String) (e : Error) :
    Kept (traffic ++ [.refused address e]) opened held :=
  h.next trivial (Nat.le_refl _) (fun _ hc => by cases hc)
    fun _ _ => (h.held_iff _ _).trans live_refused.symm

theorem Kept.called {c : Nat} (hc : held address = some c) (request : Request) :
    Kept (traffic ++ [.called c address request]) opened held := by
  have hlive := (h.held_iff _ _).1 hc
  refine h.next hlive (Nat.le_refl _) (fun d hd => ?_)
    fun _ _ => (h.held_iff _ _).trans live_called.symm
  cases hd
  exact h.issued _ hlive.1 c rfl

theorem Kept.dropped {c : Nat} (hc : held address = some c) :
    Kept (traffic ++ [.dropped c]) opened (Function.update held address none) := by
  have hlive := (h.held_iff _ _).1 hc
  refine h.next ⟨address, hlive⟩ (Nat.le_refl _) (fun d hd => ?_) fun other d => ?_
  · cases hd
    exact h.issued _ hlive.1 c rfl
  · rw [live_dropped, ← h.held_iff]
    by_cases hother : other = address
    · subst hother
      simp [hc, eq_comm]
    · rw [Function.update_of_ne hother]
      refine ⟨fun hd => ⟨hd, ?_⟩, And.left⟩
      rintro rfl
      exact hother (h.injective hd hc)

theorem Kept.connected (hfree : held address = none) :
    Kept (traffic ++ [.connected address (opened + 1)]) (opened + 1)
      (Function.update held address (some (opened + 1))) := by
  have hfresh : ∀ e ∈ traffic, e.connection? ≠ some (opened + 1) := fun e he hc =>
    Nat.not_succ_le_self _ (h.issued e he _ hc)
  have hnone : ∀ d, ¬Live traffic address d := fun d hd => by
    rw [← h.held_iff, hfree] at hd
    cases hd
  refine h.next ⟨hfresh, hnone⟩ (Nat.le_succ _) (fun d hd => ?_) fun other d => ?_
  · cases hd
    exact Nat.le_refl _
  · rw [live_connected hfresh, ← h.held_iff]
    by_cases hother : other = address
    · subst hother
      simp [hfree, eq_comm]
    · simp [hother]

/-- Dropping connections that are held until none is left. -/
theorem Kept.released {cs : List Nat} (hnodup : cs.Nodup)
    (hmem : ∀ c, c ∈ cs ↔ ∃ address, held address = some c) :
    Kept (traffic ++ cs.map .dropped) opened fun _ => none := by
  induction cs generalizing traffic held with
  | nil =>
    have hnone : held = fun _ => none := by
      funext address
      cases hc : held address with
      | none => rfl
      | some c => exact absurd ((hmem c).2 ⟨address, hc⟩) List.not_mem_nil
    rw [List.map_nil, List.append_nil, ← hnone]
    exact h
  | cons c cs ih =>
    obtain ⟨hnot, hnodup⟩ := List.nodup_cons.1 hnodup
    obtain ⟨address, hc⟩ := (hmem c).1 List.mem_cons_self
    have hrest := ih (h.dropped hc) hnodup fun d => ?_
    · simpa using hrest
    constructor
    · intro hd
      obtain ⟨other, hother⟩ := (hmem d).1 (List.mem_cons_of_mem _ hd)
      refine ⟨other, ?_⟩
      rw [Function.update_of_ne, hother]
      rintro rfl
      rw [hc, Option.some.injEq] at hother
      exact hnot (hother ▸ hd)
    · rintro ⟨other, hother⟩
      obtain rfl | hne := eq_or_ne other address
      · simp at hother
      · rw [Function.update_of_ne hne] at hother
        obtain rfl | hd := List.mem_cons.1 ((hmem d).2 ⟨other, hother⟩)
        · exact absurd (h.injective hother hc) hne
        · exact hd

/-! ### Conversations -/

theorem Kept.hungUp {agent : Agent} (hheld : held address = agent.connection) :
    Kept (traffic ++ hangUp agent) opened (Function.update held address none) := by
  unfold hangUp
  rw [← hheld]
  cases hc : held address with
  | none =>
    rw [← hc, Function.update_eq_self, hc]
    simpa using h
  | some c => exact h.dropped hc

variable {ω : Type} {net : Network ω} {request : Request} {sent : List Traffic} {stop : Bool}

theorem Kept.fruitless {agent : Agent} {w w₁ : ω} (hheld : held address = agent.connection)
    (first : Fruitless net address request agent w sent stop w₁) :
    Kept (traffic ++ sent) opened held := by
  cases first with
  | disconnected => simpa using h
  | failed hc => exact h.called (hheld.trans hc) request

theorem Kept.exchanged {agent : Agent} {w : ω} {reply : Reply} {after : Scene ω}
    (hheld : held address = agent.connection)
    (hrules : Exchanged net address request agent opened w sent stop reply after) :
    Kept (traffic ++ sent) after.opened
      (Function.update held address (after.agent.bind Agent.connection)) := by
  cases hrules with
  | answered hc =>
    rw [Option.bind_some, ← hheld, Function.update_eq_self]
    exact h.called (hheld.trans hc) request
  | abandoned first =>
    simp only [← List.append_assoc]
    exact ((h.fruitless hheld first).hungUp hheld).refused address _
  | retried first =>
    have hopened := ((h.fruitless hheld first).hungUp hheld).connected (Function.update_self ..)
    rw [Function.update_idem] at hopened
    simpa using hopened.called (Function.update_self ..) request

theorem Kept.conversation {reply : Reply} {before after : Scene ω} (hopened : before.opened = opened)
    (hheld : held address = before.agent.bind Agent.connection)
    (hrules : Conversation net address request before sent stop reply after) :
    Kept (traffic ++ sent) after.opened
      (Function.update held address (after.agent.bind Agent.connection)) := by
  subst hopened
  cases hrules with
  | refused =>
    have hnone : held address = none := hheld
    rw [Option.bind_none, ← hnone, Function.update_eq_self]
    exact h.refused address _
  | @created _ _ n sent _ _ _ _ rest =>
    have hrest := (h.connected hheld).exchanged (Function.update_self ..) rest
    rw [Function.update_idem] at hrest
    simpa using hrest
  | known rest => exact h.exchanged hheld rest

end

end Traffic

/-! ### Entries

Whatever an entry into the list of agents keeps, all operations keep that change it. -/

section

variable {ω : Type} {P : List (String × Agent) → Prop}
  (hP : ∀ m address agent, P m → P (Ordered.insert address agent m)) (net : Network ω)
  {r : Registry ω} (h : P r.agents) (address : String)

namespace Registry

include hP h

theorem agents_update (f : Agent → Agent) : P (r.update address f).agents := by
  unfold update
  split
  · exact hP _ _ _ h
  · exact h

theorem agents_close : P (r.close address).agents := by
  unfold close
  split
  · exact agents_update hP h address _
  · exact h

theorem agents_attach (c : Nat) : P (r.attach address c).agents :=
  agents_update hP (agents_close hP h address) address _

omit hP in
theorem agents_connect : P (r.connect net address).2.agents := by
  unfold connect
  split <;> exact h

theorem agents_reconnect : P (r.reconnect net address).2.agents := by
  have hconnect := agents_connect net (agents_close hP h address) address
  unfold reconnect
  split <;> rename_i heq <;> rw [heq] at hconnect
  · exact hconnect
  · exact agents_attach hP (r := Registry.measure _ _) hconnect address _

theorem agents_getOrCreate : P (r.getOrCreate net address).2.agents := by
  have hconnect := agents_connect net h address
  unfold getOrCreate enter
  cases r.agent? address with
  | some agent => exact h
  | none =>
    simp only
    split <;> rename_i heq <;> rw [heq] at hconnect
    · exact hconnect
    · exact hP _ _ _ hconnect

omit hP in
theorem agents_attempt (request : Request) : P (r.attempt net address request).2.agents := by
  unfold attempt
  split <;> exact h

end Registry

namespace Queue

include hP h

theorem agents_retry (request : Request) : P (retry net address request r).2.agents := by
  have hreconnect := Registry.agents_reconnect hP net h address
  unfold retry
  split <;> rename_i heq <;> rw [heq] at hreconnect
  · exact hreconnect
  · have hattempt := Registry.agents_attempt net hreconnect address request
    split <;> rename_i heq <;> rw [heq] at hattempt <;> exact hattempt

theorem agents_ask (request : Request) : P (ask net address request r).2.agents := by
  have hattempt := Registry.agents_attempt net h address request
  unfold ask
  split <;> rename_i heq <;> rw [heq] at hattempt
  · exact hattempt
  · exact agents_retry hP net (r := Registry.log _ _) hattempt address request

theorem agents_call (request : Request) : P (call net address request r).2.agents := by
  have hcreate := Registry.agents_getOrCreate hP net h address
  unfold call
  split <;> rename_i heq <;> rw [heq] at hcreate
  · exact hcreate
  · exact agents_ask hP net hcreate address request

end Queue

end

/-! ### The records of a registry -/

namespace Registry

variable {ω : Type}

/-- The records are in order, and they hold the live connections. -/
structure Sound (r : Registry ω) : Prop where
  sorted : Ordered.Sorted r.agents
  kept : Traffic.Kept r.traffic r.opened r.connection?

theorem sound_empty (world : ω) : Sound ({ world } : Registry ω) :=
  ⟨Ordered.sorted_nil, Traffic.kept_nil⟩

theorem update_connection? {r q : Registry ω} {address : String}
    (hothers : ∀ other ≠ address, q.agent? other = r.agent? other) :
    q.connection? =
      Function.update r.connection? address ((q.agent? address).bind Agent.connection) := by
  funext other
  by_cases h : other = address
  · rw [h, Function.update_self]
    rfl
  · rw [Function.update_of_ne h, connection?, hothers other h]
    rfl

variable (net : Network ω) {r : Registry ω} (h : r.Sound)

include h

theorem Sound.call (address : String) (request : Request) :
    (Queue.call net address request r).2.Sound := by
  obtain ⟨sent, stop, hrules, htraffic, -⟩ := Queue.call_conversation net address request r
  refine ⟨Queue.agents_call (fun _ _ _ hm => hm.insert _ _) net h.sorted address request, ?_⟩
  rw [htraffic, update_connection? fun other => Queue.agent?_call_of_ne net r]
  exact h.kept.conversation rfl rfl hrules

theorem Sound.getOrCreate (address : String) : (r.getOrCreate net address).2.Sound := by
  have hsorted := agents_getOrCreate (fun _ _ _ hm => hm.insert _ _) net h.sorted address
  have hothers : ∀ other ≠ address, (r.getOrCreate net address).2.agent? other = r.agent? other :=
    fun _ => agent?_getOrCreate_of_ne net r
  have hupdate := update_connection? hothers
  unfold Registry.getOrCreate enter at hsorted hupdate ⊢
  cases hagent : r.agent? address with
  | some agent => exact ⟨h.sorted, h.kept⟩
  | none =>
    have hfree : r.connection? address = none := by
      rw [connection?, hagent]
      rfl
    rcases hconnect : net.connect address r.world with ⟨_ | e, w⟩
    · simp only [hagent, connect_opened net r hconnect, agent?_log, agent?_measure, gauge,
        agent?_put] at hsorted hupdate ⊢
      refine ⟨hsorted, ?_⟩
      rw [hupdate]
      exact h.kept.connected hfree
    · simp only [connect_refused net r hconnect]
      exact ⟨h.sorted, h.kept.refused address e⟩

/-! ### The end -/

/-- A record after its connection was closed. -/
def closed (agent : Agent) : Agent := { agent with connection := none }

omit h in
theorem agents_closeAll : r.closeAll.agents = r.agents.map fun e => (e.1, closed e.2) := rfl

omit h in
theorem agent?_closeAll (address : String) :
    r.closeAll.agent? address = (r.agent? address).map closed := by
  rw [agent?, agents_closeAll]
  exact Ordered.find?_map address closed r.agents

omit h in
theorem connection?_closeAll : r.closeAll.connection? = fun _ => none := by
  funext address
  rw [connection?, agent?_closeAll]
  cases r.agent? address <;> rfl

/-- The connections that the records hold. -/
def connections (r : Registry ω) : List Nat := r.agents.filterMap (·.2.connection)

theorem Sound.mem_connections (c : Nat) :
    c ∈ r.connections ↔ ∃ address, r.connection? address = some c := by
  simp only [connections, List.mem_filterMap, connection?, Option.bind_eq_some_iff]
  constructor
  · rintro ⟨⟨address, agent⟩, hmem, hc⟩
    exact ⟨address, agent, h.sorted.mem_iff.1 hmem, hc⟩
  · rintro ⟨address, agent, hagent, hc⟩
    exact ⟨(address, agent), h.sorted.mem_iff.2 hagent, hc⟩

theorem Sound.nodup_connections : r.connections.Nodup := by
  refine List.pairwise_filterMap.2 (h.sorted.imp_of_mem ?_)
  rintro ⟨address, agent⟩ ⟨other, agent'⟩ hmem hmem' hlt c hc _ hc' rfl
  have hheld : ∀ {address : String} {agent : Agent}, (address, agent) ∈ r.agents →
      agent.connection = some c → r.connection? address = some c := fun hmem hc =>
    (connection?_eq r (h.sorted.mem_iff.1 hmem)).trans hc
  rw [h.kept.injective (hheld hmem hc) (hheld hmem' hc')] at hlt
  exact String.lt_irrefl other hlt

theorem Sound.closeAll : r.closeAll.Sound := by
  refine ⟨agents_closeAll (r := r) ▸ h.sorted.map closed, ?_⟩
  rw [connection?_closeAll]
  have hperm : (r.connections.mergeSort).Perm r.connections := List.mergeSort_perm _ _
  exact h.kept.released (hperm.nodup_iff.2 h.nodup_connections) fun c =>
    hperm.mem_iff.trans (h.mem_connections c)

end Registry

end AgentRelay
