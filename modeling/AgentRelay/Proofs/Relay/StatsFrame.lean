import AgentRelay.Proofs.Relay.Answers
import AgentRelay.Proofs.Stats

/-! Which counters an operation can change. Those of other agents it cannot; of its own agent's it
changes the bundle under the access point it is for, if it was answered, and in that only the
counters of its own channel. -/
namespace AgentRelay.Relay

variable {ω : Type}

/-! ### What is written -/

section

variable {f : Forwarding} {write : Stats → Stats} (h : f.Writes write) (s : Stats)

include h

theorem Forwarding.Writes.bundles_of_pointless (hpoint : f.point? = none) :
    (write s).bundles = s.bundles := by
  cases f with
  | hostState | textTail =>
    cases h
    rfl
  | rndcCommand app | namedStats _ app | keaCommands app =>
    obtain ⟨point, hsome, -⟩ := h
    exact nomatch hsome.symm.trans hpoint

theorem Forwarding.Writes.find?_of_ne {key : Stats.Key}
    (hkey : ∀ point, f.point? = some point → key ≠ point.statsKey) :
    Ordered.find? key (write s).bundles = Ordered.find? key s.bundles := by
  cases f with
  | hostState | textTail =>
    cases h
    rfl
  | rndcCommand | namedStats =>
    obtain ⟨point, hpoint, n, rfl⟩ := h
    exact s.find?_updateBind9_of_ne _ (hkey point hpoint)
  | keaCommands =>
    obtain ⟨point, hpoint, g, rfl⟩ := h
    exact s.find?_updateKea_of_ne _ (hkey point hpoint)

end

/-! ### The frame -/

section

variable (net : Network ω) {f : Forwarding} (r : Relay ω)

theorem bundles_of_unreached (h : ¬Reached net f r) :
    ((forward net f r).2.statsOf f.machine.agentAddress).bundles =
      (r.statsOf f.machine.agentAddress).bundles := by
  obtain ⟨write, n, -, hwrite, hstats⟩ := statsOf_forward net f r
  rw [hstats, hwrite h]
  rfl

theorem bundles_of_pointless (h : f.point? = none) :
    ((forward net f r).2.statsOf f.machine.agentAddress).bundles =
      (r.statsOf f.machine.agentAddress).bundles := by
  by_cases hreached : Reached net f r
  · obtain ⟨write, n, hwrites, -, hstats⟩ := statsOf_forward net f r
    rw [hstats]
    exact (hwrites hreached).bundles_of_pointless _ h
  · exact bundles_of_unreached net r hreached

theorem find?_bundles_of_ne {key : Stats.Key}
    (h : ∀ point, f.point? = some point → key ≠ point.statsKey) :
    Ordered.find? key ((forward net f r).2.statsOf f.machine.agentAddress).bundles =
      Ordered.find? key (r.statsOf f.machine.agentAddress).bundles := by
  by_cases hreached : Reached net f r
  · obtain ⟨write, n, hwrites, -, hstats⟩ := statsOf_forward net f r
    rw [hstats]
    exact (hwrites hreached).find?_of_ne _ h
  · rw [bundles_of_unreached net r hreached]

/-- An answered call to a BIND 9 app leaves counters of this kind under its access point, and those
of the other channel as they were. -/
theorem bind9?_of_reached (channel : Channel) (point : AccessPoint)
    (hwrites : ∀ write, f.Writes write → ∃ n : Stats → Nat,
      write = fun s => s.updateBind9 point.statsKey (channel.setCounter (n s)))
    (h : Reached net f r) : ∃ n,
    Ordered.find? point.statsKey ((forward net f r).2.statsOf f.machine.agentAddress).bundles =
      some (.bind9 (channel.setCounter n
        (((r.statsOf f.machine.agentAddress).bind9? point.statsKey).getD {}))) := by
  obtain ⟨write, n, hwrite, -, hstats⟩ := statsOf_forward net f r
  obtain ⟨m, rfl⟩ := hwrites write (hwrite h)
  rw [hstats]
  exact ⟨_, Stats.find?_updateBind9 ..⟩

theorem kea?_of_reached {app : App} {commands : List Kea.Command} {slots : List Kea.Slot}
    {point : AccessPoint} (hpoint : app.accessPoint? .control = some point)
    (h : Reached net (.keaCommands app commands slots) r) : ∃ c,
    Ordered.find? point.statsKey ((forward net (.keaCommands app commands slots) r).2.statsOf
      app.machine.agentAddress).bundles = some (.kea c) := by
  obtain ⟨write, n, hwrite, -, hstats⟩ := statsOf_forward net (.keaCommands app commands slots) r
  obtain ⟨_, hsame, g, rfl⟩ := hwrite h
  obtain rfl := Option.some.inj (hsame.symm.trans hpoint)
  rw [Forwarding.machine] at hstats
  rw [hstats]
  exact ⟨_, Stats.find?_updateKea ..⟩

end

/-- A network on which every agent gives the same reply to RNDC commands. -/
def rndcNetwork (reply : Protocol.ForwardRndcCommandRsp) : Network Unit where
  connect _ w := (none, w)
  call _ _ w := ({ remote := { Remote.failing ⟨.unimplemented, "", []⟩ with
    forwardRndcCommand := fun _ => .ok reply } }, w)

def bind9Point : AccessPoint := ⟨.control, "127.0.0.1", 953, none⟩

/-- A BIND 9 app with a control channel. -/
def bind9App : App :=
  ⟨2, "bind9@host", .bind9, ⟨1, "10.0.0.1", 8080⟩, [bind9Point], []⟩

/-- An operation, whatever comes of it, leaves the records of all other agents as they are. If it is
not answered, or if it is for no app, it leaves every bundle of its own agent as it is, and in any
case those that are not under its access point. There an answered call to a BIND 9 app leaves
counters in which those of the other channel have not changed, a bundle of the other kind having
counted as zero, and answered Kea commands leave counters of a Kea app. -/
theorem stats_frame (net : Network ω) (r : Relay ω) :
    (∀ f : Forwarding,
      (∀ other ≠ f.machine.agentAddress,
        (forward net f r).2.registry.agent? other = r.registry.agent? other) ∧
      (¬Reached net f r → ((forward net f r).2.statsOf f.machine.agentAddress).bundles =
        (r.statsOf f.machine.agentAddress).bundles) ∧
      (f.point? = none → ((forward net f r).2.statsOf f.machine.agentAddress).bundles =
        (r.statsOf f.machine.agentAddress).bundles) ∧
      ∀ key, (∀ point, f.point? = some point → key ≠ point.statsKey) →
        Ordered.find? key ((forward net f r).2.statsOf f.machine.agentAddress).bundles =
          Ordered.find? key (r.statsOf f.machine.agentAddress).bundles) ∧
    (∀ app command point, app.accessPoint? .control = some point →
      Reached net (.rndcCommand app command) r → ∃ c,
        Ordered.find? point.statsKey ((forward net (.rndcCommand app command) r).2.statsOf
          app.machine.agentAddress).bundles = some (.bind9 c) ∧
        c.statistics =
          (((r.statsOf app.machine.agentAddress).bind9? point.statsKey).getD {}).statistics) ∧
    (∀ (α : Type) (decode : Json.Decoder α) app path point,
      app.accessPoint? .statistics = some point → Reached net (.namedStats decode app path) r → ∃ c,
        Ordered.find? point.statsKey ((forward net (.namedStats decode app path) r).2.statsOf
          app.machine.agentAddress).bundles = some (.bind9 c) ∧
        c.rndc = (((r.statsOf app.machine.agentAddress).bind9? point.statsKey).getD {}).rndc) ∧
    ∀ app commands slots point, app.accessPoint? .control = some point →
      Reached net (.keaCommands app commands slots) r → ∃ c,
        Ordered.find? point.statsKey ((forward net (.keaCommands app commands slots) r).2.statsOf
          app.machine.agentAddress).bundles = some (.kea c) := by
  refine ⟨fun f => ⟨fun other => agent?_forward_of_ne net f r, bundles_of_unreached net r,
      bundles_of_pointless net r, fun key => find?_bundles_of_ne net r⟩, ?_, ?_,
    fun app commands slots point => kea?_of_reached net r⟩
  · intro app command point hpoint h
    obtain ⟨n, hbundle⟩ := bind9?_of_reached net r .rndc point (fun write hwrite => by
      obtain ⟨_, hsame, hwrite⟩ := hwrite
      rwa [Option.some.inj (hsame.symm.trans hpoint)] at hwrite) h
    exact ⟨_, hbundle, rfl⟩
  · intro α decode app path point hpoint h
    obtain ⟨n, hbundle⟩ := bind9?_of_reached net r .statistics point (fun write hwrite => by
      obtain ⟨_, hsame, hwrite⟩ := hwrite
      rwa [Option.some.inj (hsame.symm.trans hpoint)] at hwrite) h
    exact ⟨_, hbundle, rfl⟩

/-- A reply without a status, to the first command. -/
theorem stats_frame_reached :
    bind9App.accessPoint? .control = some bind9Point ∧
    Reached (rndcNetwork {}) (.rndcCommand bind9App "status") (fresh () 1) ∧ ∃ c,
      Ordered.find? bind9Point.statsKey ((forward (rndcNetwork {})
        (.rndcCommand bind9App "status") (fresh () 1)).2.statsOf
          bind9App.machine.agentAddress).bundles = some (.bind9 c) ∧ c.statistics = 0 := by
  have hreached : Reached (rndcNetwork {}) (.rndcCommand bind9App "status") (fresh () 1) :=
    ⟨_, rfl, rfl⟩
  exact ⟨rfl, hreached, (stats_frame (rndcNetwork {}) (fresh () 1)).2.1 bind9App "status"
    bind9Point rfl hreached⟩

end AgentRelay.Relay
