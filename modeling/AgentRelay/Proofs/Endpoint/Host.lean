import AgentRelay.Proofs.Connector.Admission
import AgentRelay.Proofs.Text.Unsigned

/-! The host of a machine is found again in the address of its agent. A host without a colon stands
before the only colon of the address, as a port has none. Any other stands between brackets, be they
its own or put around it, and ends where a bracket is first followed by a colon; so nothing is lost as
long as these two do not occur in the host itself. The name that is asked of the agent in a handshake
is that host. -/
namespace AgentRelay

/-! ### Ports -/

namespace Endpoint

theorem isPort_toDigits (port : UInt16) : isPort (Nat.toDigits 10 port.toNat) = true := by
  have hlt := port.toNat_lt
  rw [isPort, Text.unsigned?_toDigits (by omega)]
  rfl

theorem colon_not_mem_toDigits (n : Nat) : ':' ∉ Nat.toDigits 10 n := by
  intro hmem
  have hdigit := Nat.isDigit_of_mem_toDigits (by decide) (by decide) hmem
  cases hdigit

/-! ### Hosts -/

/-- What ends a host between brackets. -/
def closing : List Char := [']', ':']

theorem splitBracket_cons {c : Char} {rest : List Char} (h : ¬closing <+: c :: rest) :
    splitBracket (c :: rest) = (splitBracket rest).map fun (host, port) => (c :: host, port) := by
  rw [splitBracket]
  rintro rest' rfl rfl
  exact h ⟨rest', rfl⟩

/-- The first closing ends the host: none is in it, and none starts at its last character. -/
theorem splitBracket_append {host : List Char} (h : ¬closing <:+: host) (port : List Char) :
    splitBracket (host ++ closing ++ port) = some (host, port) := by
  induction host with
  | nil => rfl
  | cons c host ih =>
    have hhost : ¬closing <:+: host := fun hin => h (hin.trans (List.suffix_cons c host).isInfix)
    have hfirst : ¬closing <+: c :: (host ++ closing ++ port) := by
      intro hstart
      cases host with
      | nil => simp [closing, List.cons_prefix_cons] at hstart
      | cons d host =>
        refine h (List.IsPrefix.isInfix ?_)
        simpa [closing, List.cons_prefix_cons] using hstart
    rw [List.cons_append, List.cons_append, splitBracket_cons hfirst, ih hhost]
    rfl

theorem hostChars_brackets {host : List Char} (h : ¬closing <:+: host) (port : List Char) :
    hostChars ('[' :: host ++ closing ++ port) = .ok host := by
  rw [List.cons_append, List.cons_append, hostChars, splitBracket_append h]

theorem hostChars_plain {host port : List Char} (hne : host ≠ []) (hopen : host.head? ≠ some '[')
    (hhost : ':' ∉ host) (hport : ':' ∉ port) (hvalid : isPort port = true) :
    hostChars (host ++ ':' :: port) = .ok host := by
  have hall : ∀ c ∈ host, decide (c ≠ ':') = true := by
    intro c hc
    exact decide_eq_true fun heq => hhost (heq ▸ hc)
  have htake : (host ++ ':' :: port).takeWhile (· ≠ ':') = host := by
    rw [List.takeWhile_append_of_pos hall]
    simp
  have hdrop : (host ++ ':' :: port).dropWhile (· ≠ ':') = ':' :: port := by
    rw [List.dropWhile_append_of_pos hall]
    simp
  unfold hostChars
  split
  · rename_i heq
    cases host with
    | nil => exact absurd rfl hne
    | cons c host =>
      cases heq
      exact absurd rfl hopen
  · simp only [htake, hdrop, List.contains_eq_mem, hne, hport, hvalid]
    rfl

/-! ### Machines -/

/-- The name of the host that an address is made for: what it is called without brackets. -/
inductive Names : (host name : String) → Prop
  | plain {host : String} (hne : host ≠ "") (hopen : host.toList.head? ≠ some '[')
      (hcolon : ':' ∉ host.toList) : Names host host
  | literal {host : String} (hcolon : ':' ∈ host.toList) (hopen : host.toList.head? ≠ some '[')
      (hclosing : ¬closing <:+: host.toList) : Names host host
  | bracketed {name : String} (hclosing : ¬closing <:+: name.toList) :
      Names ("[" ++ name ++ "]") name

theorem joinChars_eq (host : List Char) (port : UInt16) :
    joinChars host port = bracketed host ++ ':' :: Nat.toDigits 10 port.toNat := rfl

theorem hostChars_join {host name : String} (h : Names host name) (port : UInt16) :
    hostChars (joinChars host.toList port) = .ok name.toList := by
  rw [joinChars_eq]
  cases h with
  | plain hne hopen hcolon =>
    have hchars : host.toList ≠ [] := fun hnil => hne (String.toList_inj.1 hnil)
    have hnone : ¬(host.toList.contains ':' = true ∧ host.toList.head? ≠ some '[') := by
      simp [List.contains_eq_mem, hcolon]
    rw [bracketed, if_neg hnone]
    exact hostChars_plain hchars hopen hcolon (colon_not_mem_toDigits _) (isPort_toDigits port)
  | literal hcolon hopen hclosing =>
    have hput : host.toList.contains ':' = true ∧ host.toList.head? ≠ some '[' :=
      ⟨List.contains_iff_mem.2 hcolon, hopen⟩
    rw [bracketed, if_pos hput]
    simpa [closing] using hostChars_brackets hclosing (Nat.toDigits 10 port.toNat)
  | bracketed hclosing =>
    simpa [bracketed, closing] using hostChars_brackets hclosing (Nat.toDigits 10 port.toNat)

/-- The credentials, the syntax of the address and the name of its host decide on a connection. -/
theorem prepare_of_host {c : Credentials} {now : Int} {address name : String}
    (h : host address = .ok name) :
    Connector.prepare c now address = .ok () ↔ c.validate now = .ok () ∧
      Uri.check ("https://" ++ address) = .ok () ∧ c.supportsHandshake = true ∧
        ServerName.isValid name = true := by
  cases hvalidate : c.validate now with
  | error fault =>
    have hrefused : Connector.prepare c now address = .error (.credentials address fault) := by
      simp only [Connector.prepare, h, hvalidate]
      rfl
    simp [hrefused]
  | ok _ =>
    rw [Connector.prepare_of_validate h hvalidate]
    cases Uri.check ("https://" ++ address) with
    | error fault => simp [mapError_error, Except.bind]
    | ok _ => simp [mapError_ok, Except.bind]

/-- In the address of an agent the host of its machine is found without brackets, and in a handshake
the agent is asked for that name. -/
theorem host_of_join (host name : String) (port : UInt16) (h : Names host name) :
    Endpoint.host (join host port) = .ok name ∧
      ∀ (id : Int64) (c : Credentials) (now : Int),
        Connector.prepare c now (Machine.mk id host port).agentAddress = .ok () ↔
          c.validate now = .ok () ∧
          Uri.check ("https://" ++ (Machine.mk id host port).agentAddress) = .ok () ∧
          c.supportsHandshake = true ∧ ServerName.isValid name = true := by
  have hhost : Endpoint.host (join host port) = .ok name := by
    rw [Endpoint.host, join, String.toList_ofList, hostChars_join h]
    exact congrArg Except.ok String.ofList_toList
  exact ⟨hhost, fun id c now => prepare_of_host hhost⟩

/-- A literal that ends like a bracket. -/
theorem host_of_join_literal :
    Names "fe80::1]" "fe80::1]" ∧
      Endpoint.host (join "fe80::1]" 65535) = .ok "fe80::1]" := by
  have hclosing : ¬closing <:+: "fe80::1]".toList := by decide +kernel
  have hnames : Names "fe80::1]" "fe80::1]" :=
    .literal (by decide +kernel) (by decide +kernel) hclosing
  exact ⟨hnames, (host_of_join _ _ 65535 hnames).1⟩

end Endpoint

end AgentRelay
