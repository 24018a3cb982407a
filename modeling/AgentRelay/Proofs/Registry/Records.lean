import AgentRelay.Proofs.Registry.Holdings

/-! Whose record an address has. Any number of callers may use a registry at a time. All that they
do is done in one step, except that a caller who wants an agent looks it up first and, if there is
none, enters it in a second step, and between the two the others may do anything. A record that was
created for an address is the record of that address from then on, so a connection with which a
record is created is opened once at most for each address. -/
namespace AgentRelay

/-- What tells a record from all others, for as long as it is there. -/
def Agent.identity (agent : Agent) : String × Nat := (agent.address, agent.createdWith)

namespace Registry

variable {ω : Type} (net : Network ω)

/-! ### Looking up and entering -/

/-- The first step of a caller who wants an agent: one that is known is handed out. -/
def lookUp (address : String) (r : Registry ω) : Option Agent × Registry ω :=
  match r.agent? address with
  | some agent => (some agent,
      r.log [⟨.debug, "using existing agent connection", [("agent", .text address)]⟩])
  | none => (none, r)

/-- A caller whom nobody interrupts takes both steps at once. -/
theorem getOrCreate_eq (address : String) (r : Registry ω) :
    r.getOrCreate net address =
      match r.lookUp address with
      | (some agent, r) => (.ok agent, r)
      | (none, r) => r.enter net address := by
  unfold getOrCreate lookUp
  cases r.agent? address <;> rfl

section

variable {net} {r : Registry ω} {address : String}

theorem enter_known {agent : Agent} (h : r.agent? address = some agent) :
    r.enter net address = (.ok agent, r.gauge) := by
  unfold enter
  rw [h]

theorem enter_refused {e : Error} {w : ω} (h : r.agent? address = none)
    (hconnect : net.connect address r.world = (some e, w)) :
    r.enter net address = (.error e, { r with world := w }.happened [.refused address e]) := by
  unfold enter
  rw [h, connect_refused net r hconnect]

/-- What entering an agent leads to when its first connection is opened. -/
structure Created (address : String) (r q : Registry ω) : Prop where
  agent : q.agent? address = some (.create address (r.opened + 1))
  others : ∀ other ≠ address, q.agent? other = r.agent? other
  opened : q.opened = r.opened + 1
  size : r.size ≤ q.size
  traffic : q.traffic = r.traffic ++ [.connected address (r.opened + 1)]

theorem enter_created {w : ω} (h : r.agent? address = none)
    (hconnect : net.connect address r.world = (none, w)) :
    (r.enter net address).1 = .ok (.create address (r.opened + 1)) ∧
      Created address r (r.enter net address).2 := by
  unfold enter
  rw [h, connect_opened net r hconnect]
  refine ⟨rfl, agent?_put _ _, fun other hother => ?_, rfl, ?_, rfl⟩
  · exact agent?_put_of_ne _ _ hother
  · exact Ordered.length_le_insert address _ r.agents

end

/-! ### Operations that create no record -/

/-- Every address has the record it had, or none as before. -/
structure Keeps (r q : Registry ω) : Prop where
  records : ∀ address,
    (q.agent? address).map Agent.identity = (r.agent? address).map Agent.identity
  opened : r.opened ≤ q.opened
  size : r.size ≤ q.size

theorem Keeps.refl (r : Registry ω) : Keeps r r := ⟨fun _ => rfl, Nat.le_refl _, Nat.le_refl _⟩

theorem Keeps.trans {r q p : Registry ω} (h₁ : Keeps r q) (h₂ : Keeps q p) : Keeps r p :=
  ⟨fun address => (h₂.records address).trans (h₁.records address),
    Nat.le_trans h₁.opened h₂.opened, Nat.le_trans h₁.size h₂.size⟩

section

variable (r : Registry ω) (address : String)

theorem keeps_log (entries : List Log.Entry) : Keeps r (r.log entries) :=
  ⟨fun _ => rfl, Nat.le_refl _, Nat.le_refl _⟩

theorem keeps_measure (m : Metrics) : Keeps r (r.measure m) :=
  ⟨fun _ => rfl, Nat.le_refl _, Nat.le_refl _⟩

theorem keeps_happened (traffic : List Traffic) : Keeps r (r.happened traffic) :=
  ⟨fun _ => rfl, Nat.le_refl _, Nat.le_refl _⟩

theorem keeps_update {f : Agent → Agent} (hf : ∀ agent, (f agent).identity = agent.identity) :
    Keeps r (r.update address f) := by
  refine ⟨fun other => ?_, Nat.le_of_eq (by rw [update_eq]), ?_⟩
  · by_cases h : other = address
    · rw [h, agent?_update, Option.map_map]
      exact congrArg (Option.map · _) (funext hf)
    · rw [agent?_update_of_ne r f h]
  · exact agents_update (P := fun m => r.agents.length ≤ m.length)
      (fun m key agent hm => Nat.le_trans hm (Ordered.length_le_insert key agent m))
      (Nat.le_refl _) address f

theorem keeps_close : Keeps r (r.close address) := by
  unfold close
  cases r.connection? address with
  | none => exact .refl r
  | some c =>
    have hupdate : Keeps r (r.update address ({ · with connection := none })) :=
      keeps_update r address fun _ => rfl
    exact hupdate.trans (keeps_happened _ _)

theorem keeps_attach (c : Nat) : Keeps r (r.attach address c) :=
  (keeps_close r address).trans (keeps_update _ address fun _ => rfl)

theorem keeps_connect : Keeps r (r.connect net address).2 := by
  rcases hconnect : net.connect address r.world with ⟨_ | e, w⟩
  · rw [connect_opened net r hconnect]
    exact ⟨fun _ => rfl, Nat.le_succ _, Nat.le_refl _⟩
  · rw [connect_refused net r hconnect]
    exact ⟨fun _ => rfl, Nat.le_refl _, Nat.le_refl _⟩

theorem keeps_reconnect : Keeps r (r.reconnect net address).2 := by
  have hconnect := (keeps_close r address).trans (keeps_connect net _ address)
  unfold reconnect
  split <;> rename_i heq <;> rw [heq] at hconnect
  · exact hconnect.trans (keeps_measure _ _)
  · exact hconnect.trans ((keeps_measure _ _).trans
      ((keeps_attach _ address _).trans (keeps_log _ _)))

theorem keeps_closeAll : Keeps r r.closeAll := by
  refine ⟨fun other => ?_, Nat.le_refl _, ?_⟩
  · rw [agent?_closeAll, Option.map_map]
    rfl
  · exact Nat.le_of_eq (List.length_map _).symm

/-- Gives a record a connection that was opened elsewhere. A number that is new is taken. -/
def replace (c : Nat) : Registry ω :=
  { r with opened := max r.opened c }.attach address c

theorem keeps_replace (c : Nat) : Keeps r (r.replace address c) := by
  refine Keeps.trans (q := { r with opened := max r.opened c }) ?_ (keeps_attach _ address c)
  exact ⟨fun _ => rfl, Nat.le_max_left _ _, Nat.le_refl _⟩

end

/-! ### Records in their places -/

/-- Every record is at its own address, and no two were created with the same connection. -/
structure Filed (r : Registry ω) : Prop where
  own : ∀ address agent, r.agent? address = some agent → agent.address = address
  issued : ∀ address agent, r.agent? address = some agent → agent.createdWith ≤ r.opened
  distinct : ∀ address other agent agent', r.agent? address = some agent →
    r.agent? other = some agent' → agent.createdWith = agent'.createdWith → address = other

theorem filed_empty (world : ω) : Filed ({ world } : Registry ω) := by
  have hnone : ∀ address agent, ({ world } : Registry ω).agent? address ≠ some agent :=
    fun _ _ h => by cases h
  exact ⟨fun address agent h => absurd h (hnone address agent),
    fun address agent h => absurd h (hnone address agent),
    fun address _ agent _ h => absurd h (hnone address agent)⟩

theorem Keeps.before {r q : Registry ω} (h : Keeps r q) {address : String} {agent : Agent}
    (hagent : q.agent? address = some agent) :
    ∃ known, r.agent? address = some known ∧ known.identity = agent.identity := by
  have hrecord := h.records address
  rw [hagent, Option.map_some] at hrecord
  exact Option.map_eq_some_iff.1 hrecord.symm

theorem Filed.keep {r q : Registry ω} (h : r.Filed) (hkeeps : Keeps r q) : q.Filed := by
  refine ⟨fun address agent hagent => ?_, fun address agent hagent => ?_,
    fun address other agent agent' hagent hother heq => ?_⟩
  · obtain ⟨known, hknown, hid⟩ := hkeeps.before hagent
    rw [← h.own address known hknown]
    exact (congrArg Prod.fst hid).symm
  · obtain ⟨known, hknown, hid⟩ := hkeeps.before hagent
    have hissued := h.issued address known hknown
    have hcreated : known.createdWith = agent.createdWith := congrArg Prod.snd hid
    exact Nat.le_trans (hcreated ▸ hissued) hkeeps.opened
  · obtain ⟨known, hknown, hid⟩ := hkeeps.before hagent
    obtain ⟨known', hknown', hid'⟩ := hkeeps.before hother
    apply h.distinct address other known known' hknown hknown'
    calc
      known.createdWith = agent.createdWith := congrArg Prod.snd hid
      _ = agent'.createdWith := heq
      _ = known'.createdWith := (congrArg Prod.snd hid').symm

theorem Created.before {r q : Registry ω} {address other : String} {agent : Agent}
    (h : Created address r q) (hagent : q.agent? other = some agent) :
    other = address ∧ agent = .create address (r.opened + 1) ∨
      other ≠ address ∧ r.agent? other = some agent := by
  by_cases hother : other = address
  · subst hother
    rw [h.agent, Option.some.injEq] at hagent
    exact .inl ⟨rfl, hagent.symm⟩
  · rw [h.others other hother] at hagent
    exact .inr ⟨hother, hagent⟩

theorem Filed.create {r q : Registry ω} {address : String} (h : r.Filed)
    (hcreated : Created address r q) : q.Filed := by
  have hnew : ∀ other agent, r.agent? other = some agent →
      agent.createdWith ≠ r.opened + 1 := fun other agent hagent heq => by
    have hissued := h.issued other agent hagent
    omega
  refine ⟨fun other agent hagent => ?_, fun other agent hagent => ?_,
    fun first second agent agent' hfirst hsecond heq => ?_⟩
  · obtain ⟨rfl, rfl⟩ | ⟨-, hknown⟩ := hcreated.before hagent
    · rfl
    · exact h.own other agent hknown
  · rw [hcreated.opened]
    obtain ⟨rfl, rfl⟩ | ⟨-, hknown⟩ := hcreated.before hagent
    · exact Nat.le_refl _
    · exact Nat.le_succ_of_le (h.issued other agent hknown)
  · obtain ⟨rfl, rfl⟩ | ⟨-, hknown⟩ := hcreated.before hfirst <;>
      obtain ⟨rfl, rfl⟩ | ⟨-, hknown'⟩ := hcreated.before hsecond
    · rfl
    · exact absurd heq.symm (hnew second agent' hknown')
    · exact absurd heq (hnew first agent hknown)
    · exact h.distinct first second agent agent' hknown hknown' heq

end Registry

end AgentRelay
