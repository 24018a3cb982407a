import AgentRelay.Proofs.Relay.Answers

/-! Every connection from its opening to its end, in runs of all that callers can ask of the relay.
Each action keeps the registry sound, and so a run does; what is promised of the traffic is read off
from that. The first shutdown leaves no record with a connection, hence no connection that was not
dropped. -/
namespace AgentRelay.Relay

variable {ω : Type} (net : Network ω)

/-! ### Actions -/

/-- What a caller can do with the relay. -/
inductive Action : Type 1 where
  | forward (f : Forwarding)
  | connectedAgent (address : String)
  | stats (address : String) (port : UInt16)
  | shutdown

/-- The relay after an action; counters are only read. -/
def Action.perform : Action → Relay ω → Relay ω
  | .forward f, r => (Relay.forward net f r).2
  | .connectedAgent address, r => (r.connectedAgent net address).2
  | .stats _ _, r => r
  | .shutdown, r => r.shutdown

def run (actions : List Action) (r : Relay ω) : Relay ω :=
  actions.foldl (fun r action => action.perform net r) r

theorem run_concat (actions : List Action) (action : Action) (r : Relay ω) :
    run net (actions ++ [action]) r = action.perform net (run net actions r) := by
  simp [run]

/-! ### What actions keep -/

section

variable {r : Relay ω} (h : r.registry.Sound)

include h

theorem sound_start : r.start.registry.Sound := by
  unfold start
  split
  · exact h
  · exact ⟨h.sorted, h.kept⟩

theorem sound_submit (address : String) (request : Request) :
    (r.submit net address request).2.registry.Sound := by
  unfold submit answer
  split
  · split
    · exact sound_start h
    · exact (sound_start h).call net address request
  · exact h

theorem sound_forward (f : Forwarding) : (forward net f r).2.registry.Sound := by
  obtain ⟨-, hsame⟩ | ⟨request, _, _, -, -, -, hbooked⟩ := forward_writes net f r
  · rw [hsame]
    exact h
  · exact hbooked.sound (sound_submit net h f.machine.agentAddress request)

theorem sound_shutdown : r.shutdown.registry.Sound := by
  unfold shutdown
  split
  · have hstopped : r.stop.registry.Sound := ⟨h.sorted, h.kept⟩
    have hstarted := sound_start hstopped
    have hlogged : (r.stop.start.log [Queue.stoppedEntry 0]).registry.Sound :=
      ⟨hstarted.sorted, hstarted.kept⟩
    exact ⟨hlogged.closeAll.sorted, hlogged.closeAll.kept⟩
  · exact h

theorem sound_perform (action : Action) : (action.perform net r).registry.Sound := by
  cases action with
  | forward f => exact sound_forward net h f
  | connectedAgent address => exact h.getOrCreate net address
  | stats => exact h
  | shutdown => exact sound_shutdown h

theorem sound_run (actions : List Action) : (run net actions r).registry.Sound := by
  induction actions generalizing r with
  | nil => exact h
  | cons action actions ih => exact ih (sound_perform net h action)

end

/-! ### The first shutdown -/

/-- Only a shutdown makes the relay accept nothing any more. -/
theorem accepting_perform {action : Action} (h : action ≠ .shutdown) (r : Relay ω) :
    (action.perform net r).accepting = r.accepting := by
  cases action with
  | forward => exact accepting_forward
  | connectedAgent | stats => rfl
  | shutdown => exact absurd rfl h

theorem accepting_run {actions : List Action} (h : .shutdown ∉ actions) (r : Relay ω) :
    (run net actions r).accepting = r.accepting := by
  induction actions generalizing r with
  | nil => rfl
  | cons action actions ih =>
    obtain ⟨hfirst, hrest⟩ := not_or.1 (List.mem_cons.not.1 h)
    exact (ih hrest _).trans (accepting_perform net (Ne.symm hfirst) r)

theorem connection?_shutdown {r : Relay ω} (h : r.accepting = true) (address : String) :
    r.shutdown.registry.connection? address = none := by
  unfold shutdown
  rw [if_pos h]
  exact congrFun Registry.connection?_closeAll address

/-! ### Runs -/

/-- Where no record has a connection, every connection was dropped exactly once. -/
theorem count_dropped_of_disconnected {registry : Registry ω} (h : registry.Sound)
    (hnone : ∀ address, registry.connection? address = none) {address : String} {c : Nat}
    (hopened : .connected address c ∈ registry.traffic) :
    registry.traffic.count (.dropped c) = 1 := by
  have hdropped : .dropped c ∈ registry.traffic := by
    refine Decidable.byContradiction fun hnot => ?_
    have hheld := (h.kept.held_iff address c).2 ⟨hopened, hnot⟩
    rw [hnone] at hheld
    cases hheld
  exact Nat.le_antisymm (h.kept.orderly.count_dropped c) (List.count_pos_iff.2 hdropped)

/-- A network on which every connection can be opened and every call fails. -/
def deafNetwork : Network Unit where
  connect _ w := (none, w)
  call _ _ w := ({ remote := Remote.failing ⟨.unavailable, "", []⟩ }, w)

/-- After any actions, however the network and the agents behave, the traffic is lawful at each of
its moments, and the records hold the live connections: each record the one that was opened to its
address, and no two records the same. When a shutdown is called for the first time, no record holds
a connection any more, and every connection that was opened has been dropped exactly once. -/
theorem connections_of_run (net : Network ω) (world : ω) (capacity : Nat)
    (actions : List Action) :
    Traffic.Lawful (run net actions (fresh world capacity)).registry.traffic ∧
    (∀ address c,
      (run net actions (fresh world capacity)).registry.connection? address = some c ↔
        Traffic.Live (run net actions (fresh world capacity)).registry.traffic address c) ∧
    (run net actions (fresh world capacity)).registry.connections.Nodup ∧
    (.shutdown ∉ actions →
      (∀ address, (run net (actions ++ [.shutdown])
        (fresh world capacity)).registry.connection? address = none) ∧
      ∀ address c, .connected address c ∈
          (run net (actions ++ [.shutdown]) (fresh world capacity)).registry.traffic →
        (run net (actions ++ [.shutdown]) (fresh world capacity)).registry.traffic.count
          (.dropped c) = 1) := by
  have hfresh : (fresh world capacity : Relay ω).registry.Sound := Registry.sound_empty world
  have hsound := sound_run net hfresh actions
  refine ⟨hsound.kept.orderly.lawful, hsound.kept.held_iff, hsound.nodup_connections,
    fun hfirst => ?_⟩
  have haccepting : (run net actions (fresh world capacity)).accepting = true :=
    accepting_run net hfirst _
  have hnone : ∀ address, (run net (actions ++ [.shutdown])
      (fresh world capacity)).registry.connection? address = none := fun address => by
    rw [run_concat]
    exact connection?_shutdown haccepting address
  exact ⟨hnone, fun address c hopened =>
    count_dropped_of_disconnected (sound_run net hfresh _) hnone hopened⟩

/-- A failed call and its retry: of the two connections the first is dropped by the reconnect and
the second by the shutdown. -/
theorem connections_of_run_reconnected :
    Action.shutdown ∉ [Action.forward (.hostState "10.0.0.1" 8080)] ∧
    ∀ c ∈ [1, 2], (run deafNetwork [.forward (.hostState "10.0.0.1" 8080), .shutdown]
      (fresh () 1)).registry.traffic.count (.dropped c) = 1 := by
  have hfirst : Action.shutdown ∉ [Action.forward (.hostState "10.0.0.1" 8080)] := by simp
  obtain ⟨-, -, -, hend⟩ := connections_of_run deafNetwork () 1
    [.forward (.hostState "10.0.0.1" 8080)]
  obtain ⟨-, hdropped⟩ := hend hfirst
  refine ⟨hfirst, fun c hc => hdropped "10.0.0.1:8080" c ?_⟩
  revert c
  decide

end AgentRelay.Relay
