import AgentRelay.Registry

/-! What the operations of a registry do to the record of one address, to the world and to the
traffic, and that they leave the records of all other addresses alone. Measurements and log entries
are seen by none of these. -/
namespace AgentRelay.Registry

variable {ω : Type} (net : Network ω) (r : Registry ω) (address : String)

/-- All that a call to an address can depend on: the world, the record of the address, and the
connections opened so far. -/
structure Scene (ω : Type) where
  world : ω
  agent : Option Agent
  opened : Nat

def scene : Scene ω := ⟨r.world, r.agent? address, r.opened⟩

@[simp] theorem scene_log (entries : List Log.Entry) :
    (r.log entries).scene address = r.scene address := rfl

@[simp] theorem scene_measure (m : Metrics) : (r.measure m).scene address = r.scene address := rfl

@[simp] theorem scene_happened (traffic : List Traffic) :
    (r.happened traffic).scene address = r.scene address := rfl

@[simp] theorem agent?_log (entries : List Log.Entry) :
    (r.log entries).agent? address = r.agent? address := rfl

@[simp] theorem agent?_measure (m : Metrics) :
    (r.measure m).agent? address = r.agent? address := rfl

@[simp] theorem agent?_happened (traffic : List Traffic) :
    (r.happened traffic).agent? address = r.agent? address := rfl

@[simp] theorem traffic_log (entries : List Log.Entry) : (r.log entries).traffic = r.traffic := rfl

@[simp] theorem traffic_measure (m : Metrics) : (r.measure m).traffic = r.traffic := rfl

@[simp] theorem traffic_happened (traffic : List Traffic) :
    (r.happened traffic).traffic = r.traffic ++ traffic := rfl

@[simp] theorem cancelled_log (entries : List Log.Entry) :
    (r.log entries).cancelled = r.cancelled := rfl

@[simp] theorem cancelled_measure (m : Metrics) : (r.measure m).cancelled = r.cancelled := rfl

@[simp] theorem cancelled_happened (traffic : List Traffic) :
    (r.happened traffic).cancelled = r.cancelled := rfl

/-! ### Records -/

variable {address}

theorem agent?_put (agent : Agent) : (r.put address agent).agent? address = some agent :=
  Ordered.find?_insert_self _ _ _

theorem agent?_put_of_ne (agent : Agent) {other : String} (h : other ≠ address) :
    (r.put address agent).agent? other = r.agent? other :=
  Ordered.find?_insert_of_ne _ _ h

theorem agent?_update (f : Agent → Agent) :
    (r.update address f).agent? address = (r.agent? address).map f := by
  unfold update
  cases h : r.agent? address with
  | none => simpa using h
  | some agent => exact agent?_put r (f agent)

theorem agent?_update_of_ne (f : Agent → Agent) {other : String} (h : other ≠ address) :
    (r.update address f).agent? other = r.agent? other := by
  unfold update
  cases r.agent? address with
  | none => rfl
  | some agent => exact agent?_put_of_ne r _ h

/-- An update is seen in the records only. -/
theorem update_eq (f : Agent → Agent) :
    r.update address f = { r with agents := (r.update address f).agents } := by
  unfold update
  cases r.agent? address <;> rfl

@[simp] theorem traffic_update (f : Agent → Agent) : (r.update address f).traffic = r.traffic := by
  rw [update_eq]

@[simp] theorem cancelled_update (f : Agent → Agent) :
    (r.update address f).cancelled = r.cancelled := by
  rw [update_eq]

theorem scene_update (f : Agent → Agent) :
    (r.update address f).scene address = ⟨r.world, (r.agent? address).map f, r.opened⟩ := by
  simp only [scene, agent?_update]
  rw [update_eq]

/-! ### Connections -/

theorem connection?_eq {agent : Agent} (h : r.agent? address = some agent) :
    r.connection? address = agent.connection := by
  simp [connection?, h]

/-- What is dropped when the connection of a record is closed. -/
def hangUp (agent : Agent) : List Traffic := agent.connection.toList.map .dropped

theorem close_eq : r.close address =
    { r with agents := (r.close address).agents, traffic := (r.close address).traffic } := by
  unfold close
  cases r.connection? address with
  | none => rfl
  | some c => rw [update_eq]; rfl

@[simp] theorem cancelled_close : (r.close address).cancelled = r.cancelled := by rw [close_eq]

theorem agent?_close : (r.close address).agent? address =
    (r.agent? address).map ({ · with connection := none }) := by
  unfold close
  cases h : r.agent? address with
  | none => simp [connection?, h]
  | some agent =>
    rw [connection?_eq r h]
    obtain ⟨own, first, connection, stats⟩ := agent
    cases connection with
    | none => simp [h]
    | some c => simp [agent?_update, h]

theorem traffic_close {agent : Agent} (h : r.agent? address = some agent) :
    (r.close address).traffic = r.traffic ++ hangUp agent := by
  unfold close hangUp
  rw [connection?_eq r h]
  cases agent.connection <;> simp

theorem agent?_close_of_ne {other : String} (h : other ≠ address) :
    (r.close address).agent? other = r.agent? other := by
  unfold close
  cases r.connection? address with
  | none => rfl
  | some c => simp [agent?_update_of_ne r _ h]

theorem close_of_disconnected {agent : Agent} (h : r.agent? address = some agent)
    (hc : agent.connection = none) : r.close address = r := by
  unfold close
  rw [connection?_eq r h, hc]

/-- Attaching a connection to a closed record drops nothing. -/
theorem attach_of_disconnected {agent : Agent} (h : r.agent? address = some agent)
    (hc : agent.connection = none) (c : Nat) :
    (r.attach address c).scene address =
        ⟨r.world, some { agent with connection := some c }, r.opened⟩ ∧
      (r.attach address c).traffic = r.traffic := by
  unfold attach
  rw [close_of_disconnected r h hc, scene_update, traffic_update, h]
  exact ⟨rfl, rfl⟩

theorem agent?_attach_of_ne (c : Nat) {other : String} (h : other ≠ address) :
    (r.attach address c).agent? other = r.agent? other := by
  rw [attach, agent?_update_of_ne _ _ h, agent?_close_of_ne _ h]

theorem agent?_connect (address other : String) :
    (r.connect net address).2.agent? other = r.agent? other := by
  unfold connect
  split <;> rfl

@[simp] theorem cancelled_connect (address : String) :
    (r.connect net address).2.cancelled = r.cancelled := by
  unfold connect
  split <;> rfl

theorem connect_refused {e : Error} {w : ω} (h : net.connect address r.world = (some e, w)) :
    r.connect net address = (.error e, { r with world := w }.happened [.refused address e]) := by
  simp [connect, h]

theorem connect_opened {w : ω} (h : net.connect address r.world = (none, w)) :
    r.connect net address = (.ok (r.opened + 1),
      { r with world := w, opened := r.opened + 1 }.happened
        [.connected address (r.opened + 1)]) := by
  simp [connect, issue, h]

/-! ### A new connection for a record -/

section

variable {agent : Agent} {w : ω}

theorem agent?_reconnect_of_ne {other : String} (h : other ≠ address) :
    (r.reconnect net address).2.agent? other = r.agent? other := by
  have hconnect := agent?_connect net (r.close address) address other
  rw [agent?_close_of_ne r h] at hconnect
  unfold reconnect
  split <;> rename_i heq <;> rw [heq] at hconnect
  · exact hconnect
  · rw [agent?_log, agent?_attach_of_ne _ _ h]
    exact hconnect

@[simp] theorem cancelled_reconnect (address : String) :
    (r.reconnect net address).2.cancelled = r.cancelled := by
  have hconnect := cancelled_connect net (r.close address) address
  rw [cancelled_close] at hconnect
  unfold reconnect
  split <;> rename_i heq <;> rw [heq] at hconnect
  · exact hconnect
  · simpa [attach] using hconnect

variable {net} {r}

theorem reconnect_refused (h : r.agent? address = some agent) {e : Error}
    (hconnect : net.connect address r.world = (some e, w)) :
    (r.reconnect net address).1 = .error e ∧
      (r.reconnect net address).2.scene address =
        ⟨w, some { agent with connection := none }, r.opened⟩ ∧
      (r.reconnect net address).2.traffic = r.traffic ++ hangUp agent ++ [.refused address e] := by
  have hworld : (r.close address).world = r.world := by rw [close_eq]
  have hopened : (r.close address).opened = r.opened := by rw [close_eq]
  have hclosed := connect_refused net (r.close address) (hworld.symm ▸ hconnect)
  simp only [reconnect, hclosed, scene_measure, scene_happened, traffic_measure, traffic_happened]
  refine ⟨trivial, ?_, by rw [traffic_close r h]⟩
  show (⟨w, (r.close address).agent? address, (r.close address).opened⟩ : Scene ω) = _
  rw [agent?_close, h, hopened]
  rfl

theorem reconnect_opened (h : r.agent? address = some agent)
    (hconnect : net.connect address r.world = (none, w)) :
    (r.reconnect net address).1 = .ok () ∧
      (r.reconnect net address).2.scene address =
        ⟨w, some { agent with connection := some (r.opened + 1) }, r.opened + 1⟩ ∧
      (r.reconnect net address).2.traffic =
        r.traffic ++ hangUp agent ++ [.connected address (r.opened + 1)] := by
  have hworld : (r.close address).world = r.world := by rw [close_eq]
  have hopened : (r.close address).opened = r.opened := by rw [close_eq]
  have hagent : (r.close address).agent? address = some { agent with connection := none } := by
    rw [agent?_close, h]; rfl
  have hclosed := connect_opened net (r.close address) (hworld.symm ▸ hconnect)
  obtain ⟨hscene, htraffic⟩ := attach_of_disconnected
    (({ r.close address with world := w, opened := (r.close address).opened + 1 }.happened
      [.connected address ((r.close address).opened + 1)]).measure [.reconnect true])
    hagent rfl ((r.close address).opened + 1)
  simp only [reconnect, hclosed, scene_log, traffic_log, hscene, htraffic]
  refine ⟨trivial, ?_, by simp [traffic_close r h, hopened]⟩
  simp only [Registry.measure, Registry.happened, hopened]

end

/-! ### The record of a new address -/

theorem agent?_getOrCreate_of_ne {other : String} (h : other ≠ address) :
    (r.getOrCreate net address).2.agent? other = r.agent? other := by
  have hconnect := agent?_connect net r address other
  unfold getOrCreate enter
  cases r.agent? address with
  | some agent => rfl
  | none =>
    simp only
    split <;> rename_i heq <;> rw [heq] at hconnect
    · exact hconnect
    · exact (agent?_put_of_ne _ _ h).trans hconnect

/-! ### Calls -/

theorem exchange_eq (c : Nat) (request : Request) {turn : Turn} {w : ω}
    (hcall : net.call address c r.world = (turn, w)) :
    r.exchange net address c request = (turn.remote.answer request,
      { r with world := w, cancelled := r.cancelled || turn.cancels }.happened
        [.called c address request]) := by
  simp [exchange, hcall]

theorem attempt_connected {agent : Agent} (h : r.agent? address = some agent) {c : Nat}
    (hc : agent.connection = some c) (request : Request) :
    r.attempt net address request = r.exchange net address c request := by
  unfold attempt
  rw [connection?_eq r h, hc]

theorem attempt_disconnected {agent : Agent} (h : r.agent? address = some agent)
    (hc : agent.connection = none) (request : Request) :
    r.attempt net address request = (.error ⟨.unavailable, "connection closed", []⟩, r) := by
  unfold attempt
  rw [connection?_eq r h, hc]

theorem agent?_attempt (address : String) (request : Request) (other : String) :
    (r.attempt net address request).2.agent? other = r.agent? other := by
  unfold attempt
  cases r.connection? address <;> rfl

end AgentRelay.Registry
