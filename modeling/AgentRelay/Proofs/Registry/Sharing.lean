import AgentRelay.Proofs.Registry.Records

/-! Callers that share a registry. Their steps may come in any order. What each step does to the
records is one of five effects, and from these follows what a history of steps shows: which record a
caller gets, where records stand, and which connections were opened to create them. -/
namespace AgentRelay.Registry

variable {ω : Type} (net : Network ω)

/-! ### Steps -/

/-- What a caller does in one go. -/
inductive Step where
  /-- A caller who wants an agent looks it up. -/
  | ask (caller : Nat) (address : String)
  /-- A caller who has looked an agent up in vain enters it. -/
  | enter (caller : Nat)
  /-- Somebody takes both of these steps without an interruption. -/
  | getOrCreate (address : String)
  | get (address : String)
  | reconnect (address : String)
  | close (address : String)
  | replace (address : String) (connection : Nat)
  | closeAll

/-- What a caller gets to know in a step. -/
inductive Answer where
  | nothing
  /-- The record of an address, if there is one. -/
  | got (address : String) (agent : Option Agent)
  /-- What comes of wanting the agent at an address. -/
  | returned (address : String) (result : Except Error Agent)

/-- A registry, and the address that each caller has looked up in vain and not entered yet. -/
structure Shared (ω : Type) where
  registry : Registry ω
  missed : Nat → Option String := fun _ => none

/-- A step that was taken. -/
structure Event (ω : Type) where
  answer : Answer
  /-- The address that was entered, if one was. -/
  entered : Option String := none
  before : Registry ω
  after : Registry ω

/-- A caller who has an address to enter does nothing else before that. -/
def Step.take (s : Shared ω) : Step → Event ω × (Nat → Option String)
  | .ask caller address =>
    if (s.missed caller).isSome then (⟨.nothing, none, s.registry, s.registry⟩, s.missed)
    else
      match s.registry.lookUp address with
      | (some agent, r) => (⟨.returned address (.ok agent), none, s.registry, r⟩, s.missed)
      | (none, r) =>
        (⟨.nothing, none, s.registry, r⟩, Function.update s.missed caller (some address))
  | .enter caller =>
    match s.missed caller with
    | none => (⟨.nothing, none, s.registry, s.registry⟩, s.missed)
    | some address =>
      let (result, r) := s.registry.enter net address
      (⟨.returned address result, some address, s.registry, r⟩,
        Function.update s.missed caller none)
  | .getOrCreate address =>
    let (result, r) := s.registry.getOrCreate net address
    (⟨.returned address result,
      if (s.registry.agent? address).isNone then some address else none, s.registry, r⟩, s.missed)
  | .get address =>
    (⟨.got address (s.registry.agent? address), none, s.registry, s.registry⟩, s.missed)
  | .reconnect address =>
    (⟨.nothing, none, s.registry, (s.registry.reconnect net address).2⟩, s.missed)
  | .close address => (⟨.nothing, none, s.registry, s.registry.close address⟩, s.missed)
  | .replace address c => (⟨.nothing, none, s.registry, s.registry.replace address c⟩, s.missed)
  | .closeAll => (⟨.nothing, none, s.registry, s.registry.closeAll⟩, s.missed)

/-- What happens in some steps, one after another. -/
def history : List Step → Shared ω → List (Event ω)
  | [], _ => []
  | step :: steps, s =>
    let taken := step.take net s
    taken.1 :: history steps { registry := taken.1.after, missed := taken.2 }

/-! ### Effects -/

/-- What a step can do. -/
inductive Effect : Event ω → Prop where
  | quiet {r q : Registry ω} (h : Keeps r q) : Effect ⟨.nothing, none, r, q⟩
  | got {r : Registry ω} {address : String} :
      Effect ⟨.got address (r.agent? address), none, r, r⟩
  | known {r q : Registry ω} {address : String} {entered : Option String} {agent : Agent}
      (h : r.agent? address = some agent) (hsame : q.agent? = r.agent?) (hkeeps : Keeps r q)
      (htraffic : q.traffic = r.traffic)
      (hentered : ∀ other, entered = some other → other = address) :
      Effect ⟨.returned address (.ok agent), entered, r, q⟩
  | refused {r : Registry ω} {address : String} {e : Error} {w : ω} (h : r.agent? address = none)
      (hconnect : net.connect address r.world = (some e, w)) :
      Effect ⟨.returned address (.error e), some address, r,
        { r with world := w }.happened [.refused address e]⟩
  | created {r q : Registry ω} {address : String} {w : ω} (h : r.agent? address = none)
      (hconnect : net.connect address r.world = (none, w)) (hcreated : Created address r q) :
      Effect ⟨.returned address (.ok (.create address (r.opened + 1))), some address, r, q⟩

theorem effect_enter (r : Registry ω) (address : String) :
    Effect net ⟨.returned address (r.enter net address).1, some address, r,
      (r.enter net address).2⟩ := by
  cases h : r.agent? address with
  | some agent =>
    rw [enter_known h]
    exact .known h rfl (keeps_measure _ _) rfl fun other hother => (Option.some.inj hother).symm
  | none =>
    rcases hconnect : net.connect address r.world with ⟨_ | e, w⟩
    · obtain ⟨hresult, hcreated⟩ := enter_created h hconnect
      rw [hresult]
      exact .created h hconnect hcreated
    · rw [enter_refused h hconnect]
      exact .refused h hconnect

/-- Every step has one of the effects. -/
theorem effect_take (step : Step) (s : Shared ω) : Effect net (step.take net s).1 := by
  cases step with
  | ask caller address =>
    simp only [Step.take]
    split
    · exact .quiet (.refl _)
    · unfold lookUp
      cases h : s.registry.agent? address with
      | some agent => exact .known h rfl (keeps_log _ _) rfl (by simp)
      | none => exact .quiet (.refl _)
  | enter caller =>
    simp only [Step.take]
    cases s.missed caller with
    | none => exact .quiet (.refl _)
    | some address => exact effect_enter net s.registry address
  | getOrCreate address =>
    have henter := effect_enter net s.registry address
    simp only [Step.take, getOrCreate_eq, lookUp]
    cases h : s.registry.agent? address with
    | some agent => exact .known h rfl (keeps_log _ _) rfl (by simp)
    | none => exact henter
  | get address => exact .got
  | reconnect address => exact .quiet (keeps_reconnect net _ _)
  | close address => exact .quiet (keeps_close _ _)
  | replace address c => exact .quiet (keeps_replace _ _ _)
  | closeAll => exact .quiet (keeps_closeAll _)

/-! ### What records outlast -/

/-- Every record that was there still is, and there are no fewer. -/
structure Outlasts (r q : Registry ω) : Prop where
  records : ∀ address agent, r.agent? address = some agent →
    ∃ kept, q.agent? address = some kept ∧ kept.identity = agent.identity
  size : r.size ≤ q.size

theorem Outlasts.refl (r : Registry ω) : Outlasts r r :=
  ⟨fun _ agent h => ⟨agent, h, rfl⟩, Nat.le_refl _⟩

theorem Outlasts.trans {r q p : Registry ω} (h₁ : Outlasts r q) (h₂ : Outlasts q p) :
    Outlasts r p := by
  refine ⟨fun address agent hagent => ?_, Nat.le_trans h₁.size h₂.size⟩
  obtain ⟨kept, hkept, hid⟩ := h₁.records address agent hagent
  obtain ⟨last, hlast, hid'⟩ := h₂.records address kept hkept
  exact ⟨last, hlast, hid'.trans hid⟩

theorem Keeps.outlasts {r q : Registry ω} (h : Keeps r q) : Outlasts r q := by
  refine ⟨fun address agent hagent => ?_, h.size⟩
  have hrecord := h.records address
  rw [hagent, Option.map_some] at hrecord
  exact Option.map_eq_some_iff.1 hrecord

theorem Created.outlasts {r q : Registry ω} {address : String} (h : Created address r q)
    (hnew : r.agent? address = none) : Outlasts r q := by
  refine ⟨fun other agent hagent => ⟨agent, ?_, rfl⟩, h.size⟩
  rw [h.others other, hagent]
  rintro rfl
  rw [hnew] at hagent
  cases hagent

section

variable {net} {e : Event ω} (h : Effect net e)

include h

theorem Effect.outlasts : Outlasts e.before e.after := by
  cases h with
  | quiet h => exact h.outlasts
  | got => exact .refl _
  | known _ _ h => exact h.outlasts
  | refused => exact ⟨fun _ agent h => ⟨agent, h, rfl⟩, Nat.le_refl _⟩
  | created h _ hcreated => exact hcreated.outlasts h

theorem Effect.filed (hfiled : e.before.Filed) : e.after.Filed := by
  cases h with
  | quiet h => exact hfiled.keep h
  | got => exact hfiled
  | known _ _ h => exact hfiled.keep h
  | refused => exact ⟨hfiled.own, hfiled.issued, hfiled.distinct⟩
  | created _ _ hcreated => exact hfiled.create hcreated

end

/-! ### Records handed out -/

/-- The answer is the record of the address. -/
def Answer.Hands (address : String) (agent : Agent) : Answer → Prop
  | .nothing => False
  | .got other found => other = address ∧ found = some agent
  | .returned other result => other = address ∧ result = .ok agent

/-- The answer is in keeping with the address having this record: asked for what there is, it is the
record, and if the agent is returned, it is the record as well. -/
def Answer.Confirms (address : String) (agent : Agent) : Answer → Prop
  | .nothing => True
  | .got other found => other = address → ∃ again, found = some again ∧
      again.identity = agent.identity
  | .returned other result => other = address → ∀ again, result = .ok again →
      again.identity = agent.identity

/-- A connection was opened in order to create a record for the address. -/
def Event.Creates (e : Event ω) (address : String) : Prop :=
  e.entered = some address ∧
    ∃ c, .connected address c ∈ e.after.traffic.drop e.before.traffic.length

section

variable {net} {e : Event ω} (h : Effect net e) {address : String} {agent : Agent}

include h

theorem Effect.hands (hhands : e.answer.Hands address agent) :
    e.after.agent? address = some agent := by
  cases h with
  | quiet => exact hhands.elim
  | got =>
    obtain ⟨rfl, hfound⟩ := hhands
    exact hfound
  | known h hsame =>
    obtain ⟨rfl, hresult⟩ := hhands
    rw [hsame, h, Except.ok.inj hresult]
  | refused => cases hhands.2
  | created _ _ hcreated =>
    obtain ⟨rfl, hresult⟩ := hhands
    rw [hcreated.agent, Except.ok.inj hresult]

theorem Effect.confirms (hagent : e.before.agent? address = some agent) :
    e.answer.Confirms address agent := by
  cases h with
  | quiet => trivial
  | got =>
    rintro rfl
    exact ⟨agent, hagent, rfl⟩
  | known h =>
    rintro rfl again hagain
    rw [hagent] at h
    rw [Option.some.inj h, Except.ok.inj hagain]
  | refused =>
    rintro rfl again hagain
    cases hagain
  | created h =>
    rintro rfl
    rw [hagent] at h
    cases h

/-- A connection is opened to create a record just where there was none and is one afterwards. -/
theorem Effect.creates_iff : e.Creates address ↔
    e.before.agent? address = none ∧ e.after.agent? address ≠ none := by
  unfold Event.Creates
  cases h with
  | @quiet r q h =>
    have hrecord := h.records address
    refine ⟨fun hcreates => by simp at hcreates, ?_⟩
    rintro ⟨hbefore, hafter⟩
    rw [hbefore] at hrecord
    exact absurd (Option.map_eq_none_iff.1 hrecord) hafter
  | got => exact ⟨fun hcreates => by simp at hcreates, fun hnew => absurd hnew.1 hnew.2⟩
  | known _ hsame _ htraffic =>
    rw [htraffic, List.drop_length]
    refine ⟨fun hcreates => by simp at hcreates, ?_⟩
    rintro ⟨hbefore, hafter⟩
    rw [hsame] at hafter
    exact absurd hbefore hafter
  | refused h =>
    rw [traffic_happened, List.drop_left]
    exact ⟨fun hcreates => by simp at hcreates, fun hnew => absurd hnew.1 hnew.2⟩
  | @created r q other w h _ hcreated =>
    rw [hcreated.traffic, List.drop_left]
    simp only [Option.some.injEq, List.mem_singleton, Traffic.connected.injEq, exists_and_left,
      exists_eq, and_true]
    constructor
    · rintro ⟨rfl, -⟩
      rw [hcreated.agent]
      exact ⟨h, Option.some_ne_none _⟩
    · rintro ⟨hbefore, hafter⟩
      by_cases hother : address = other
      · exact ⟨hother.symm, hother⟩
      · rw [hcreated.others address hother, hbefore] at hafter
        exact absurd rfl hafter

/-- It is one connection that is opened, and nothing else happens meanwhile. -/
theorem Effect.single (hcreates : e.Creates address) :
    ∃ c, e.after.traffic = e.before.traffic ++ [.connected address c] := by
  obtain ⟨hentered, c, hopened⟩ := hcreates
  cases h with
  | quiet | got => cases hentered
  | known _ _ _ htraffic =>
    rw [htraffic, List.drop_length] at hopened
    cases hopened
  | refused =>
    rw [traffic_happened, List.drop_left, List.mem_singleton] at hopened
    cases hopened
  | created _ _ hcreated =>
    cases hentered
    exact ⟨_, hcreated.traffic⟩

/-- Wanting an agent fails just where there is no record and the connector fails, with its error. -/
theorem Effect.failed_iff {failure : Error} : e.answer = .returned address (.error failure) ↔
    e.entered = some address ∧ e.before.agent? address = none ∧
      (net.connect address e.before.world).1 = some failure := by
  cases h with
  | quiet | got => simp
  | known h _ _ _ hentered =>
    simp only [Answer.returned.injEq, reduceCtorEq, and_false, false_iff, not_and]
    intro hother hnew
    rw [hentered _ hother, h] at hnew
    cases hnew
  | refused h hconnect =>
    simp only [Answer.returned.injEq, Except.error.injEq, Option.some.injEq]
    constructor
    · rintro ⟨rfl, rfl⟩
      exact ⟨rfl, h, congrArg Prod.fst hconnect⟩
    · rintro ⟨rfl, -, hfailure⟩
      rw [hconnect] at hfailure
      exact ⟨rfl, Option.some.inj hfailure⟩
  | created h hconnect =>
    simp only [Answer.returned.injEq, reduceCtorEq, and_false, Option.some.injEq, false_iff,
      not_and]
    rintro rfl - hfailure
    rw [hconnect] at hfailure
    cases hfailure

/-- Where wanting an agent fails, the registry is left exactly as it was; only the attempt is
seen. -/
theorem Effect.after_of_failed {failure : Error}
    (hfailed : e.answer = .returned address (.error failure)) :
    e.after = { e.before with world := (net.connect address e.before.world).2 }.happened
      [.refused address failure] := by
  cases h with
  | quiet | got => cases hfailed
  | known => cases hfailed
  | refused h hconnect =>
    cases hfailed
    rw [hconnect]
  | created => cases hfailed

end

/-! ### Histories -/

/-- What is promised of a single event. -/
structure Event.Lawful (e : Event ω) : Prop where
  /-- No record is lost. -/
  outlasts : Outlasts e.before e.after
  /-- Every record is at its own address, and none is at two. -/
  filed : e.after.Filed
  /-- A record that is handed out is the one in the registry. -/
  hands : ∀ address agent, e.answer.Hands address agent → e.after.agent? address = some agent
  creates_iff : ∀ address, e.Creates address ↔
    e.before.agent? address = none ∧ e.after.agent? address ≠ none
  /-- Creating a record opens one connection and does nothing else on the network. -/
  single : ∀ address, e.Creates address →
    ∃ c, e.after.traffic = e.before.traffic ++ [.connected address c]
  failed_iff : ∀ address failure, e.answer = .returned address (.error failure) ↔
    e.entered = some address ∧ e.before.agent? address = none ∧
      (net.connect address e.before.world).1 = some failure
  /-- A failure leaves the registry as it was; only the attempt to connect is seen. -/
  unchanged : ∀ address failure, e.answer = .returned address (.error failure) →
    e.after = { e.before with world := (net.connect address e.before.world).2 }.happened
      [.refused address failure]

/-- What is promised of an event and a later one. -/
structure Event.Precedes (e f : Event ω) : Prop where
  /-- The record that was handed out for an address stays the record of the address. -/
  confirms : ∀ address agent, e.answer.Hands address agent → f.answer.Confirms address agent
  size : e.after.size ≤ f.before.size
  /-- No address has a record created in both. -/
  once : ∀ address, e.Creates address → ¬f.Creates address

theorem Effect.lawful {e : Event ω} (h : Effect net e) (hfiled : e.before.Filed) :
    e.Lawful net where
  outlasts := h.outlasts
  filed := h.filed hfiled
  hands _ _ := h.hands
  creates_iff _ := h.creates_iff
  single _ := h.single
  failed_iff _ _ := h.failed_iff
  unchanged _ _ := h.after_of_failed

theorem precedes_of_outlasts {e f : Event ω} (he : Effect net e) (hf : Effect net f)
    (h : Outlasts e.after f.before) : e.Precedes f := by
  refine ⟨fun address agent hhands => ?_, h.size, fun address hcreates hagain => ?_⟩
  · obtain ⟨kept, hkept, hid⟩ := h.records address agent (he.hands hhands)
    have hconfirms := hf.confirms hkept
    unfold Answer.Confirms at hconfirms ⊢
    rw [hid] at hconfirms
    exact hconfirms
  · obtain ⟨-, hafter⟩ := he.creates_iff.1 hcreates
    obtain ⟨hnone, -⟩ := hf.creates_iff.1 hagain
    obtain ⟨agent, hagent⟩ := Option.ne_none_iff_exists'.1 hafter
    obtain ⟨kept, hkept, -⟩ := h.records address agent hagent
    rw [hkept] at hnone
    cases hnone

theorem before_take (step : Step) (s : Shared ω) : (step.take net s).1.before = s.registry := by
  cases step with
  | ask =>
    simp only [Step.take]
    split
    · rfl
    · split <;> rfl
  | enter =>
    simp only [Step.take]
    split <;> rfl
  | getOrCreate | get | reconnect | close | replace | closeAll => rfl

theorem mem_history {steps : List Step} {s : Shared ω} {e : Event ω}
    (h : e ∈ history net steps s) :
    Effect net e ∧ Outlasts s.registry e.before ∧ (s.registry.Filed → e.before.Filed) := by
  induction steps generalizing s with
  | nil => cases h
  | cons step steps ih =>
    have heffect := effect_take net step s
    have hbefore := before_take net step s
    obtain rfl | hlater := List.mem_cons.1 h
    · rw [hbefore]
      exact ⟨heffect, .refl _, id⟩
    · obtain ⟨he, houtlasts, hfiled⟩ := ih hlater
      rw [← hbefore]
      exact ⟨he, heffect.outlasts.trans houtlasts, fun h => hfiled (heffect.filed h)⟩

theorem pairwise_history (steps : List Step) (s : Shared ω) :
    (history net steps s).Pairwise Event.Precedes := by
  induction steps generalizing s with
  | nil => exact .nil
  | cons step steps ih =>
    refine .cons (fun f hf => ?_) (ih _)
    obtain ⟨heffect, houtlasts, -⟩ := mem_history net hf
    exact precedes_of_outlasts net (effect_take net step s) heffect houtlasts

/-- In everything that callers do with a registry, in whatever order their steps come and however
the connector behaves: a record that was handed out for an address is the one that everybody gets
for it later; every record is at its own address, and none is lost, so that their number never
falls; a connection is opened at most once to create a record for an address; and a caller who
cannot have an agent because the connector fails gets that very error and leaves the registry as it
was. -/
theorem records_of_history (net : Network ω) (world : ω) (steps : List Step) :
    (history net steps { registry := { world } }).Pairwise Event.Precedes ∧
      ∀ e ∈ history net steps { registry := { world } }, e.Lawful net := by
  refine ⟨pairwise_history net steps _, fun e he => ?_⟩
  obtain ⟨heffect, -, hfiled⟩ := mem_history net he
  exact heffect.lawful net (hfiled (filed_empty world))

/-- Two callers who have both looked an agent up in vain are returned the same record. -/
example :
    let net : Network Unit := {
      connect := fun _ w => (none, w)
      call := fun _ _ w => ({ remote := .failing ⟨.unavailable, "", []⟩ }, w) }
    (history net [.ask 1 "agent:8080", .ask 2 "agent:8080", .enter 2, .enter 1]
        { registry := { world := () } }).map (·.answer) =
      [.nothing, .nothing, .returned "agent:8080" (.ok (.create "agent:8080" 1)),
        .returned "agent:8080" (.ok (.create "agent:8080" 1))] := by
  rfl

end AgentRelay.Registry
