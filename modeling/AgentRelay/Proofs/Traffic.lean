import AgentRelay.Network

/-! The life of connections, read off from what happened alone. Traffic is orderly when every event
was possible at its moment: a connection is opened under a new number to an address that has none,
used while it is open and by the address it was opened to, and dropped while it is open. What is
promised of orderly traffic at every moment follows from this. -/
namespace AgentRelay.Traffic

/-- The connection that an event is about. -/
def connection? : Traffic → Option Nat
  | .connected _ c | .called c _ _ | .dropped c => some c
  | .refused .. => none

/-- A connection was opened to the address and has not been dropped. -/
def Live (past : List Traffic) (address : String) (c : Nat) : Prop :=
  .connected address c ∈ past ∧ .dropped c ∉ past

/-- What may happen next. -/
def Allowed (past : List Traffic) : Traffic → Prop
  | .connected address c =>
    (∀ e ∈ past, e.connection? ≠ some c) ∧ ∀ d, ¬Live past address d
  | .refused .. => True
  | .called c address _ => Live past address c
  | .dropped c => ∃ address, Live past address c

inductive Orderly : List Traffic → Prop where
  | nil : Orderly []
  | next {past : List Traffic} {e : Traffic} (h : Orderly past) (he : Allowed past e) :
      Orderly (past ++ [e])

/-- What is promised of the connections in some traffic, at each of its moments. -/
structure Lawful (traffic : List Traffic) : Prop where
  /-- A connection that is opened is a new one. -/
  fresh : ∀ past address c, past ++ [.connected address c] <+: traffic →
    ∀ e ∈ past, e.connection? ≠ some c
  /-- No address has two live connections at a time. -/
  single : ∀ past, past <+: traffic → ∀ address c d,
    Live past address c → Live past address d → c = d
  /-- No live connection has two addresses. -/
  exclusive : ∀ past, past <+: traffic → ∀ address other c,
    Live past address c → Live past other c → address = other
  /-- A call goes over the live connection of its own address. -/
  called : ∀ past c address request, past ++ [.called c address request] <+: traffic →
    Live past address c
  /-- What is dropped was live. -/
  dropped : ∀ past c, past ++ [.dropped c] <+: traffic → ∃ address, Live past address c
  /-- No connection is dropped twice. -/
  once : ∀ c, traffic.count (.dropped c) ≤ 1
  /-- Nothing happens on a connection after it was dropped. -/
  final : ∀ past c, past ++ [.dropped c] <+: traffic → ∀ more e,
    past ++ [.dropped c] ++ more ++ [e] <+: traffic → e.connection? ≠ some c

/-! ### What is live after an event -/

section

variable {past : List Traffic} {address other : String} {c d : Nat}

@[simp] theorem live_refused {e : Error} :
    Live (past ++ [.refused other e]) address c ↔ Live past address c := by simp [Live]

@[simp] theorem live_called {request : Request} :
    Live (past ++ [.called d other request]) address c ↔ Live past address c := by simp [Live]

theorem live_dropped :
    Live (past ++ [.dropped d]) address c ↔ Live past address c ∧ c ≠ d := by
  simp [Live, and_assoc]

theorem live_connected (hfresh : ∀ e ∈ past, e.connection? ≠ some d) :
    Live (past ++ [.connected other d]) address c ↔
      Live past address c ∨ address = other ∧ c = d := by
  have hdropped : .dropped d ∉ past := fun h => hfresh _ h rfl
  simp only [Live, List.mem_append, List.mem_singleton, connected.injEq, reduceCtorEq, or_false]
  constructor
  · rintro ⟨h | h, hlive⟩
    · exact .inl ⟨h, hlive⟩
    · exact .inr h
  · rintro (⟨h, hlive⟩ | ⟨rfl, rfl⟩)
    · exact ⟨.inl h, hlive⟩
    · exact ⟨.inr ⟨rfl, rfl⟩, hdropped⟩

theorem Live.ne_of_fresh (h : Live past address c)
    (hfresh : ∀ e ∈ past, e.connection? ≠ some d) : c ≠ d := by
  rintro rfl
  exact hfresh _ h.1 rfl

/-- A connection that was dropped appears in nothing that may happen. -/
theorem Allowed.ne_of_dropped {e : Traffic} (he : Allowed past e) (h : .dropped c ∈ past) :
    e.connection? ≠ some c := by
  rintro heq
  cases e with
  | connected => cases heq; exact he.1 _ h rfl
  | refused => cases heq
  | called => cases heq; exact he.2 h
  | dropped => cases heq; exact he.elim fun _ hlive => hlive.2 h

end

/-! ### Orderly traffic -/

section

variable {traffic : List Traffic} (h : Orderly traffic)

include h

theorem Orderly.of_prefix {past : List Traffic} (hpast : past <+: traffic) : Orderly past := by
  induction h with
  | nil =>
    rw [List.prefix_nil.1 hpast]
    exact .nil
  | next h he ih =>
    obtain rfl | hpast := List.prefix_concat_iff.1 hpast
    · exact h.next he
    · exact ih hpast

theorem Orderly.allowed {past : List Traffic} {e : Traffic} (hpast : past ++ [e] <+: traffic) :
    Allowed past e := by
  have hlast := h.of_prefix hpast
  generalize hlonger : past ++ [e] = longer at hlast
  cases hlast with
  | nil => simp at hlonger
  | next _ he =>
    obtain ⟨rfl, hevent⟩ := List.append_inj' hlonger rfl
    obtain rfl := List.singleton_inj.1 hevent
    exact he

/-- Everything that happened on a connection came after its opening. -/
theorem Orderly.opened {e : Traffic} {c : Nat} (he : e ∈ traffic) (hc : e.connection? = some c) :
    ∃ address, .connected address c ∈ traffic := by
  induction h with
  | nil => cases he
  | @next past f _ hf ih =>
    obtain he | he := List.mem_append.1 he
    · obtain ⟨address, hopened⟩ := ih he
      exact ⟨address, List.mem_append_left _ hopened⟩
    · obtain rfl := List.mem_singleton.1 he
      cases e with
      | connected address =>
        cases hc
        exact ⟨address, List.mem_append_right _ he⟩
      | refused => cases hc
      | called =>
        cases hc
        exact ⟨_, List.mem_append_left _ hf.1⟩
      | dropped =>
        cases hc
        obtain ⟨address, hlive⟩ := hf
        exact ⟨address, List.mem_append_left _ hlive.1⟩

theorem Orderly.single {address : String} {c d : Nat} (hc : Live traffic address c)
    (hd : Live traffic address d) : c = d := by
  induction h with
  | nil => cases hc.1
  | @next past e _ he ih =>
    cases e with
    | connected =>
      obtain hc' | ⟨rfl, rfl⟩ := (live_connected he.1).1 hc <;>
        obtain hd' | ⟨heq, rfl⟩ := (live_connected he.1).1 hd
      · exact ih hc' hd'
      · exact absurd (heq ▸ hc') (he.2 c)
      · exact absurd hd' (he.2 d)
      · rfl
    | refused => exact ih (live_refused.1 hc) (live_refused.1 hd)
    | called => exact ih (live_called.1 hc) (live_called.1 hd)
    | dropped => exact ih (live_dropped.1 hc).1 (live_dropped.1 hd).1

theorem Orderly.exclusive {address other : String} {c : Nat} (hc : Live traffic address c)
    (hother : Live traffic other c) : address = other := by
  induction h with
  | nil => cases hc.1
  | @next past e _ he ih =>
    cases e with
    | connected =>
      obtain hc' | ⟨rfl, rfl⟩ := (live_connected he.1).1 hc <;>
        obtain hother' | ⟨rfl, heq⟩ := (live_connected he.1).1 hother
      · exact ih hc' hother'
      · exact absurd heq (hc'.ne_of_fresh he.1)
      · exact absurd rfl (hother'.ne_of_fresh he.1)
      · rfl
    | refused => exact ih (live_refused.1 hc) (live_refused.1 hother)
    | called => exact ih (live_called.1 hc) (live_called.1 hother)
    | dropped => exact ih (live_dropped.1 hc).1 (live_dropped.1 hother).1

theorem Orderly.count_dropped (c : Nat) : traffic.count (.dropped c) ≤ 1 := by
  induction h with
  | nil => simp
  | @next past e _ he ih =>
    rw [List.count_append, List.count_singleton]
    split
    · rename_i heq
      rw [beq_iff_eq] at heq
      subst heq
      obtain ⟨address, -, hlive⟩ := he
      exact Nat.le_of_eq (congrArg (· + 1) (List.count_eq_zero.2 hlive))
    · exact ih

theorem Orderly.lawful : Lawful traffic where
  fresh _ _ _ hpast := (h.allowed hpast).1
  single _ hpast _ _ _ := (h.of_prefix hpast).single
  exclusive _ hpast _ _ _ := (h.of_prefix hpast).exclusive
  called _ _ _ _ hpast := h.allowed hpast
  dropped _ _ hpast := h.allowed hpast
  once := h.count_dropped
  final _ _ _ _ _ hmore := (h.allowed hmore).ne_of_dropped (by simp)

end

end AgentRelay.Traffic
