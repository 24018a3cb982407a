import AgentRelay.Proofs.Endpoint.Acceptance
import AgentRelay.Proofs.Registry.Sharing
import AgentRelay.Proofs.Relay.Answers

/-! When two machines share what is kept of an agent. As a port has no colon, the last colon of an
address stands before the port, whatever colons and brackets the host has. So two machines have one
address only when their ports agree and their hosts do once they have the brackets they need: a
literal is the same host with brackets and without. What is kept by address keeps all others
apart. -/
namespace AgentRelay

/-! ### Hosts and ports -/

namespace Endpoint

/-- The host has a colon and no bracket before it. -/
def IsBare (host : List Char) : Prop := ':' ∈ host ∧ host.head? ≠ some '['

/-- Two ways to write one host: a bare literal may have brackets put around it. -/
inductive SameHost : List Char → List Char → Prop
  | refl (host : List Char) : SameHost host host
  | bracket {host : List Char} (h : IsBare host) : SameHost host ('[' :: host ++ [']'])
  | unbracket {host : List Char} (h : IsBare host) : SameHost ('[' :: host ++ [']']) host

section

variable {host : List Char}

theorem bracketed_of_bare (h : IsBare host) : bracketed host = '[' :: host ++ [']'] :=
  if_pos ⟨List.contains_iff_mem.2 h.1, h.2⟩

theorem bracketed_of_not_bare (h : ¬IsBare host) : bracketed host = host :=
  if_neg fun hbare => h ⟨List.contains_iff_mem.1 hbare.1, hbare.2⟩

/-- Brackets are put around a host once. -/
theorem not_bare_brackets : ¬IsBare ('[' :: host ++ [']']) := fun h => h.2 rfl

end

theorem bracketed_eq_bracketed_iff {host₁ host₂ : List Char} :
    bracketed host₁ = bracketed host₂ ↔ SameHost host₁ host₂ := by
  constructor
  · intro h
    by_cases h₁ : IsBare host₁ <;> by_cases h₂ : IsBare host₂
    · rw [bracketed_of_bare h₁, bracketed_of_bare h₂] at h
      obtain rfl := List.append_cancel_right (List.cons.inj h).2
      exact .refl _
    · rw [bracketed_of_bare h₁, bracketed_of_not_bare h₂] at h
      exact h ▸ .bracket h₁
    · rw [bracketed_of_not_bare h₁, bracketed_of_bare h₂] at h
      exact h ▸ .unbracket h₂
    · rw [bracketed_of_not_bare h₁, bracketed_of_not_bare h₂] at h
      exact h ▸ .refl _
  · intro h
    cases h with
    | refl => rfl
    | bracket h => rw [bracketed_of_bare h, bracketed_of_not_bare not_bare_brackets]
    | unbracket h => rw [bracketed_of_bare h, bracketed_of_not_bare not_bare_brackets]

theorem toDigits_inj {port₁ port₂ : UInt16}
    (h : Nat.toDigits 10 port₁.toNat = Nat.toDigits 10 port₂.toNat) : port₁ = port₂ := by
  refine UInt16.toNat_inj.1 ?_
  calc
    port₁.toNat = Nat.ofDigitChars 10 (Nat.toDigits 10 port₁.toNat) 0 :=
      Nat.ofDigitChars_ten_toDigits.symm
    _ = Nat.ofDigitChars 10 (Nat.toDigits 10 port₂.toNat) 0 := by rw [h]
    _ = port₂.toNat := Nat.ofDigitChars_ten_toDigits

/-- A text has a last colon only once: it is the first one from behind. -/
theorem eq_of_append_last_colon {host₁ host₂ port₁ port₂ : List Char} (h₁ : ':' ∉ port₁)
    (h₂ : ':' ∉ port₂) (heq : host₁ ++ ':' :: port₁ = host₂ ++ ':' :: port₂) :
    host₁ = host₂ ∧ port₁ = port₂ := by
  have hreversed : port₁.reverse ++ ':' :: host₁.reverse =
      port₂.reverse ++ ':' :: host₂.reverse := by
    simpa using congrArg List.reverse heq
  obtain ⟨hport, hhost⟩ :=
    eq_of_append_colon (mt List.mem_reverse.1 h₁) (mt List.mem_reverse.1 h₂) hreversed
  exact ⟨List.reverse_inj.1 hhost, List.reverse_inj.1 hport⟩

/-- What stands behind the last colon is the port, and what stands before it is the host. -/
theorem joinChars_eq_joinChars_iff {host₁ host₂ : List Char} {port₁ port₂ : UInt16} :
    joinChars host₁ port₁ = joinChars host₂ port₂ ↔
      port₁ = port₂ ∧ bracketed host₁ = bracketed host₂ := by
  rw [joinChars_eq, joinChars_eq]
  constructor
  · intro h
    obtain ⟨hhost, hport⟩ :=
      eq_of_append_last_colon (colon_not_mem_toDigits _) (colon_not_mem_toDigits _) h
    exact ⟨toDigits_inj hport, hhost⟩
  · rintro ⟨rfl, h⟩
    rw [h]

theorem join_eq_join_iff {host₁ host₂ : String} {port₁ port₂ : UInt16} :
    join host₁ port₁ = join host₂ port₂ ↔
      port₁ = port₂ ∧ bracketed host₁.toList = bracketed host₂.toList := by
  rw [join, join, String.ofList_inj]
  exact joinChars_eq_joinChars_iff

end Endpoint

/-! ### Machines -/

namespace Machine

/-- The agents of two machines are reached at one place. -/
def SameEndpoint (m₁ m₂ : Machine) : Prop :=
  m₁.agentPort = m₂.agentPort ∧ Endpoint.SameHost m₁.address.toList m₂.address.toList

theorem agentAddress_eq_iff {m₁ m₂ : Machine} :
    m₁.agentAddress = m₂.agentAddress ↔ SameEndpoint m₁ m₂ :=
  Endpoint.join_eq_join_iff.trans (and_congr_right' Endpoint.bracketed_eq_bracketed_iff)

/-- What is kept of the agents of two machines is kept for both together only when these are at one
endpoint. -/
structure ToldApart (m₁ m₂ : Machine) : Prop where
  /-- Whatever callers have done with a registry, one record stands for both. -/
  records : ∀ {ω : Type} (net : Network ω) (world : ω) (steps : List Registry.Step),
    ∀ e ∈ Registry.history net steps { registry := { world } }, ∀ agent₁ agent₂,
      e.after.agent? m₁.agentAddress = some agent₁ →
      e.after.agent? m₂.agentAddress = some agent₂ →
      (agent₁.identity = agent₂.identity ↔ SameEndpoint m₁ m₂)
  /-- An operation on the one leaves the counters and the connection of the other alone. -/
  counters : ∀ {ω : Type} (net : Network ω) (f : Relay.Forwarding) (r : Relay ω),
    f.machine = m₁ → ¬SameEndpoint m₁ m₂ →
      (Relay.forward net f r).2.registry.agent? m₂.agentAddress =
        r.registry.agent? m₂.agentAddress
  labels : m₁.subject.label = m₂.subject.label ↔ SameEndpoint m₁ m₂

theorem toldApart (m₁ m₂ : Machine) : ToldApart m₁ m₂ where
  records net world steps e he agent₁ agent₂ h₁ h₂ := by
    obtain ⟨heffect, -, hfiled⟩ := Registry.mem_history net he
    have hrecords := heffect.filed (hfiled (Registry.filed_empty world))
    rw [← agentAddress_eq_iff]
    refine ⟨fun hid => ?_, fun haddress => ?_⟩
    · exact hrecords.distinct _ _ agent₁ agent₂ h₁ h₂ (congrArg Prod.snd hid)
    · rw [haddress, h₂] at h₁
      rw [Option.some.inj h₁]
  counters net f r hmachine hapart := by
    refine Relay.agent?_forward_of_ne net f r fun haddress => hapart ?_
    rw [hmachine] at haddress
    exact agentAddress_eq_iff.1 haddress.symm
  labels := agentAddress_eq_iff

/-- Two endpoints have one address only when they are the same: their ports agree, and so do their
hosts when a bare literal is read with brackets around it. Neither records nor counters nor events
confuse two that are not. -/
theorem endpoints_told_apart (host₁ host₂ : String) (port₁ port₂ : UInt16) :
    (Endpoint.join host₁ port₁ = Endpoint.join host₂ port₂ ↔
      port₁ = port₂ ∧ Endpoint.bracketed host₁.toList = Endpoint.bracketed host₂.toList) ∧
    (Endpoint.bracketed host₁.toList = Endpoint.bracketed host₂.toList ↔
      Endpoint.SameHost host₁.toList host₂.toList) ∧
    ∀ id₁ id₂ : Int64, ToldApart ⟨id₁, host₁, port₁⟩ ⟨id₂, host₂, port₂⟩ :=
  ⟨Endpoint.join_eq_join_iff, Endpoint.bracketed_eq_bracketed_iff, fun _ _ => toldApart _ _⟩

/-- A literal is the same host with brackets and without. -/
example : Endpoint.join "fe80::1" 8080 = Endpoint.join "[fe80::1]" 8080 := by rfl

end Machine

end AgentRelay
