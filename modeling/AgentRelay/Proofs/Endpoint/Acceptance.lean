import AgentRelay.Proofs.Endpoint.Host
import Mathlib.Data.List.Basic
import Mathlib.Data.List.TakeWhile

/-! Which texts are accepted as addresses. A text is taken for an address in one of two ways, or it
has one of three flaws; what is answered follows from that. Without brackets, only a host, one colon
and a port are accepted. A bracketed host ends at the first closing bracket with a colon behind it,
and what follows is not read; so the addresses that pass without being a host and a port are exactly
those whose brackets hold nothing or are not followed by a port. -/
namespace AgentRelay.Endpoint

/-! ### Ports -/

/-- How a port is written: in decimal digits, with or without a plus sign before them. -/
def PortText (text : List Char) : Prop :=
  ∃ digits, (text = digits ∨ text = '+' :: digits) ∧ digits ≠ [] ∧
    (∀ c ∈ digits, c.isDigit = true) ∧ Nat.ofDigitChars 10 digits 0 ≤ 65535

theorem portText_iff {text : List Char} : PortText text ↔ ∃ n, Text.Spells text n ∧ n ≤ 65535 := by
  constructor
  · rintro ⟨digits, htext, hne, hdigits, hle⟩
    exact ⟨_, ⟨digits, htext, hne, hdigits, rfl⟩, hle⟩
  · rintro ⟨n, ⟨digits, htext, hne, hdigits, rfl⟩, hle⟩
    exact ⟨digits, htext, hne, hdigits, hle⟩

theorem isPort_iff {text : List Char} : isPort text = true ↔ PortText text := by
  simp only [portText_iff, isPort, Option.isSome_iff_exists, Text.unsigned?_eq_some_iff]

/-! ### Cutting an address -/

section

variable {text host rest : List Char}

/-- The scan goes on behind a character with which no closing starts. -/
theorem not_closing_prefix {c : Char} (h : ∀ rest, c = ']' → text = ':' :: rest → False) :
    ¬closing <+: c :: text := by
  rintro ⟨rest, hrest⟩
  cases hrest
  exact h rest rfl rfl

/-- What stands before the first closing, and what behind it. -/
theorem splitBracket_eq_some_iff :
    splitBracket text = some (host, rest) ↔
      text = host ++ closing ++ rest ∧ ¬closing <:+: host := by
  refine ⟨fun h => ?_, fun ⟨heq, hclosing⟩ => heq ▸ splitBracket_append hclosing rest⟩
  fun_induction splitBracket text generalizing host with
  | case1 => cases h
  | case2 =>
    cases h
    exact ⟨rfl, by simp [closing]⟩
  | case3 c text hfirst ih =>
    obtain ⟨⟨inner, rest'⟩, hsplit, heq⟩ := Option.map_eq_some_iff.1 h
    cases heq
    obtain ⟨rfl, hclosing⟩ := ih hsplit
    refine ⟨rfl, fun hin => ?_⟩
    obtain hstart | hin := List.infix_cons_iff.1 hin
    · -- a closing at the start of the host would be one at the start of the text
      have hlonger : c :: inner <+: c :: (inner ++ closing ++ rest) :=
        ⟨closing ++ rest, by simp⟩
      exact not_closing_prefix hfirst (hstart.trans hlonger)
    · exact hclosing hin

theorem splitBracket_eq_none_iff : splitBracket text = none ↔ ¬closing <:+: text := by
  fun_induction splitBracket text with
  | case1 => simp [closing]
  | case2 rest =>
    have hstart : closing <+: ']' :: ':' :: rest := ⟨rest, rfl⟩
    simpa using hstart.isInfix
  | case3 c text hfirst ih => simp [ih, List.infix_cons_iff, not_closing_prefix hfirst]

end

section

variable {host port : List Char} (h : ':' ∉ host)

include h

theorem all_ne_colon : ∀ c ∈ host, decide (c ≠ ':') = true := by
  intro c hc
  exact decide_eq_true fun heq => h (heq ▸ hc)

theorem takeWhile_host : (host ++ ':' :: port).takeWhile (· ≠ ':') = host := by
  rw [List.takeWhile_append_of_pos (all_ne_colon h)]
  simp

theorem dropWhile_host : (host ++ ':' :: port).dropWhile (· ≠ ':') = ':' :: port := by
  rw [List.dropWhile_append_of_pos (all_ne_colon h)]
  simp

/-- A text has a first colon only once. -/
theorem eq_of_append_colon {host' port' : List Char} (h' : ':' ∉ host')
    (heq : host ++ ':' :: port = host' ++ ':' :: port') : host = host' ∧ port = port' := by
  have hhost : host = host' := by rw [← takeWhile_host h, heq, takeWhile_host h']
  subst hhost
  exact ⟨rfl, List.cons.inj (List.append_cancel_left heq) |>.2⟩

/-- Without brackets the first colon decides. -/
theorem hostChars_colon (hopen : (host ++ ':' :: port).head? ≠ some '[') :
    hostChars (host ++ ':' :: port) =
      if host = [] ∨ port.contains ':' then .error .expectedHostPort
      else if isPort port then .ok host else .error .invalidPort := by
  unfold hostChars
  split
  · rename_i heq
    rw [heq] at hopen
    exact absurd rfl hopen
  · simp only [takeWhile_host h, dropWhile_host h]

end

theorem hostChars_no_colon {address : List Char} (hopen : address.head? ≠ some '[')
    (h : ':' ∉ address) : hostChars address = .error .expectedHostPort := by
  have hdrop : address.dropWhile (· ≠ ':') = [] :=
    List.dropWhile_eq_nil_iff.2 (all_ne_colon h)
  unfold hostChars
  split
  · exact absurd rfl hopen
  · simp only [hdrop]

/-! ### What is accepted -/

/-- What is taken for the host of an address. -/
inductive Taken : (address host : List Char) → Prop
  | plain {host port : List Char} (hne : host ≠ []) (hopen : host.head? ≠ some '[')
      (hhost : ':' ∉ host) (hport : PortText port) : Taken (host ++ ':' :: port) host
  | bracketed {host rest : List Char} (hclosing : ¬closing <:+: host) :
      Taken ('[' :: host ++ closing ++ rest) host

/-- What is wrong with a text that has no host. -/
inductive Flawed : (address : List Char) → Fault → Prop
  | unclosed {rest : List Char} (hclosing : ¬closing <:+: rest) :
      Flawed ('[' :: rest) .missingPort
  | parts {address : List Char} (hopen : address.head? ≠ some '[')
      (hparts : ∀ host port, address = host ++ ':' :: port →
        host = [] ∨ ':' ∈ host ∨ ':' ∈ port) :
      Flawed address .expectedHostPort
  | port {host port : List Char} (hne : host ≠ []) (hopen : host.head? ≠ some '[')
      (hhost : ':' ∉ host) (hcolon : ':' ∉ port) (hport : ¬PortText port) :
      Flawed (host ++ ':' :: port) .invalidPort

theorem colon_not_mem_of_portText {port : List Char} (h : PortText port) : ':' ∉ port := by
  obtain ⟨digits, rfl | rfl, -, hdigits, -⟩ := h
  · exact fun hmem => absurd (hdigits _ hmem) (by decide)
  · intro hmem
    obtain heq | hmem := List.mem_cons.1 hmem
    · cases heq
    · exact absurd (hdigits _ hmem) (by decide)

section

variable {address host : List Char} {fault : Fault}

theorem hostChars_of_taken (h : Taken address host) : hostChars address = .ok host := by
  cases h with
  | plain hne hopen hhost hport =>
    exact hostChars_plain hne hopen hhost (colon_not_mem_of_portText hport) (isPort_iff.2 hport)
  | bracketed hclosing => exact hostChars_brackets hclosing _

theorem hostChars_of_flawed (h : Flawed address fault) : hostChars address = .error fault := by
  cases h with
  | unclosed hclosing =>
    rw [hostChars, splitBracket_eq_none_iff.2 hclosing]
  | parts hopen hparts =>
    by_cases hcolon : ':' ∈ address
    · obtain ⟨host, port, rfl, hhost⟩ := List.eq_append_cons_of_mem hcolon
      have hnone : host = [] ∨ port.contains ':' = true := by
        obtain hnil | hmem | hmem := hparts host port rfl
        · exact .inl hnil
        · exact absurd hmem hhost
        · exact .inr (List.contains_iff_mem.2 hmem)
      rw [hostChars_colon hhost hopen, if_pos hnone]
    · exact hostChars_no_colon hopen hcolon
  | @port host port hne hopen hhost hcolon hport =>
    have hhead : (host ++ ':' :: port).head? ≠ some '[' := by
      rwa [List.head?_append_of_ne_nil _ hne]
    have hnone : ¬(host = [] ∨ port.contains ':' = true) := by
      simp [hne, hcolon]
    rw [hostChars_colon hhost hhead, if_neg hnone, if_neg (mt isPort_iff.1 hport)]

theorem taken_or_flawed_of_bracket (rest : List Char) :
    (∃ host, Taken ('[' :: rest) host) ∨ ∃ fault, Flawed ('[' :: rest) fault := by
  cases hsplit : splitBracket rest with
  | none => exact .inr ⟨_, .unclosed (splitBracket_eq_none_iff.1 hsplit)⟩
  | some parts =>
    obtain ⟨rfl, hclosing⟩ := splitBracket_eq_some_iff.1 hsplit
    exact .inl ⟨_, .bracketed hclosing⟩

theorem taken_or_flawed_of_colon {host port : List Char} (hhost : ':' ∉ host)
    (hopen : (host ++ ':' :: port).head? ≠ some '[') :
    (∃ name, Taken (host ++ ':' :: port) name) ∨ ∃ fault, Flawed (host ++ ':' :: port) fault := by
  by_cases hparts : host = [] ∨ ':' ∈ port
  · refine .inr ⟨_, .parts hopen fun host' port' heq => ?_⟩
    -- any other way to cut the text at a colon leaves one in the host
    by_cases hhost' : ':' ∈ host'
    · exact .inr (.inl hhost')
    · obtain ⟨rfl, rfl⟩ := eq_of_append_colon hhost hhost' heq
      exact hparts.imp_right .inr
  · obtain ⟨hne, hport⟩ := not_or.1 hparts
    rw [List.head?_append_of_ne_nil _ hne] at hopen
    by_cases hnumber : PortText port
    · exact .inl ⟨_, .plain hne hopen hhost hnumber⟩
    · exact .inr ⟨_, .port hne hopen hhost hport hnumber⟩

/-- The head of the text and its first closing or colon tell which it is. -/
theorem taken_or_flawed (address : List Char) :
    (∃ host, Taken address host) ∨ ∃ fault, Flawed address fault := by
  by_cases hopen : address.head? = some '['
  · obtain ⟨rest, rfl⟩ := List.head?_eq_some_iff.1 hopen
    exact taken_or_flawed_of_bracket rest
  · by_cases hcolon : ':' ∈ address
    · obtain ⟨host, port, rfl, hhost⟩ := List.eq_append_cons_of_mem hcolon
      exact taken_or_flawed_of_colon hhost hopen
    · refine .inr ⟨_, .parts hopen fun host port heq => absurd ?_ hcolon⟩
      simp [heq]

theorem hostChars_eq_ok_iff : hostChars address = .ok host ↔ Taken address host := by
  refine ⟨fun h => ?_, hostChars_of_taken⟩
  obtain ⟨host', htaken⟩ | ⟨fault, hflawed⟩ := taken_or_flawed address
  · cases h.symm.trans (hostChars_of_taken htaken)
    exact htaken
  · cases h.symm.trans (hostChars_of_flawed hflawed)

theorem hostChars_eq_error_iff : hostChars address = .error fault ↔ Flawed address fault := by
  refine ⟨fun h => ?_, hostChars_of_flawed⟩
  obtain ⟨host, htaken⟩ | ⟨fault', hflawed⟩ := taken_or_flawed address
  · cases h.symm.trans (hostChars_of_taken htaken)
  · cases h.symm.trans (hostChars_of_flawed hflawed)
    exact hflawed

end

/-! ### What is complete -/

/-- The address is a host and a port, and nothing else. -/
inductive Complete : (address host : List Char) → Prop
  | plain {host port : List Char} (hne : host ≠ []) (hcolon : ':' ∉ host)
      (hport : PortText port) : Complete (host ++ ':' :: port) host
  | literal {host port : List Char} (hne : host ≠ []) (hport : PortText port) :
      Complete ('[' :: host ++ closing ++ port) host

/-- Between brackets a host is complete when it is not empty and the rest is a port. -/
theorem complete_brackets_iff {host rest : List Char} :
    Complete ('[' :: host ++ closing ++ rest) host ↔ host ≠ [] ∧ PortText rest := by
  refine ⟨fun h => ?_, fun ⟨hne, hport⟩ => .literal hne hport⟩
  generalize haddress : '[' :: host ++ closing ++ rest = address at h
  cases h with
  | @plain _ port hne hcolon hport =>
    -- the first colon stands behind both brackets, and not right behind the host
    have hcut : ('[' :: host ++ [']']) ++ ':' :: rest = host ++ ':' :: port := by
      simpa [closing] using haddress
    have hfree : ':' ∉ '[' :: host ++ [']'] := by simp [hcolon]
    have hlength := congrArg List.length (eq_of_append_colon hfree hcolon hcut).1
    simp only [List.cons_append, List.length_cons, List.length_append] at hlength
    omega
  | literal hne hport =>
    cases List.append_cancel_left haddress
    exact ⟨hne, hport⟩

/-- Everything that is accepted is complete just when that holds of a bracketed host. -/
theorem taken_complete_iff {address : List Char} :
    (∀ host, Taken address host → Complete address host) ↔
      ∀ host rest, address = '[' :: host ++ closing ++ rest → ¬closing <:+: host →
        host ≠ [] ∧ PortText rest := by
  constructor
  · rintro h host rest rfl hclosing
    exact complete_brackets_iff.1 (h host (.bracketed hclosing))
  · intro h host htaken
    cases htaken with
    | plain hne _ hhost hport => exact .plain hne hhost hport
    | bracketed hclosing => exact complete_brackets_iff.2 (h host _ rfl hclosing)

theorem host_eq_ok_iff {address host : String} :
    Endpoint.host address = .ok host ↔ hostChars address.toList = .ok host.toList := by
  unfold Endpoint.host
  cases hostChars address.toList with
  | error fault => simp [Except.map]
  | ok chars => simp [Except.map, ← String.toList_inj]

theorem host_eq_error_iff {address : String} {fault : Fault} :
    Endpoint.host address = .error fault ↔ hostChars address.toList = .error fault := by
  unfold Endpoint.host
  cases hostChars address.toList <;> simp [Except.map]

/-- What is accepted is a host and a port and nothing else exactly when the address, where its host
stands between brackets, has a host there and a port behind it. A host without brackets is accepted
with a port only; and whatever is wrong with a text, no connection to it is prepared. -/
theorem accepted_complete_iff (address : String) :
    ((∀ host, Endpoint.host address = .ok host → Complete address.toList host.toList) ↔
      ∀ host rest, address.toList = '[' :: host ++ closing ++ rest → ¬closing <:+: host →
        host ≠ [] ∧ PortText rest) ∧
    (∀ host, Endpoint.host address = .ok host ↔ Taken address.toList host.toList) ∧
    (∀ fault, Endpoint.host address = .error fault ↔ Flawed address.toList fault) ∧
    ∀ fault, Flawed address.toList fault → ∀ (c : Credentials) (now : Int),
      Connector.prepare c now address = .error (.invalidAddress address fault.message) := by
  have hok : ∀ host, Endpoint.host address = .ok host ↔ Taken address.toList host.toList :=
    fun host => host_eq_ok_iff.trans hostChars_eq_ok_iff
  have herror : ∀ fault, Endpoint.host address = .error fault ↔ Flawed address.toList fault :=
    fun fault => host_eq_error_iff.trans hostChars_eq_error_iff
  refine ⟨Iff.trans ⟨fun h host htaken => ?_, fun h host hhost => ?_⟩ taken_complete_iff, hok,
    herror, fun fault hflawed c now => ?_⟩
  · have hcomplete := h (String.ofList host) ((hok _).2 (by rwa [String.toList_ofList]))
    rwa [String.toList_ofList] at hcomplete
  · exact h host.toList ((hok host).1 hhost)
  · exact Connector.prepare_of_refusal (.address ((herror fault).2 hflawed))

/-- A literal and a port with a plus sign. -/
theorem accepted_complete_iff_literal :
    Endpoint.host "[::1]:+80" = .ok "::1" ∧
      ∀ host, Endpoint.host "[::1]:+80" = .ok host →
        Complete "[::1]:+80".toList host.toList := by
  obtain ⟨hcomplete, -⟩ := accepted_complete_iff "[::1]:+80"
  refine ⟨rfl, hcomplete.2 fun host rest heq hclosing => ?_⟩
  have hsplit := splitBracket_eq_some_iff.2 ⟨(List.cons.inj heq).2, hclosing⟩
  have hparts : splitBracket "::1]:+80".toList = some ("::1".toList, "+80".toList) := by
    decide +kernel
  cases hsplit.symm.trans hparts
  exact ⟨by decide +kernel, isPort_iff.1 (by decide +kernel)⟩

/-- What stands behind a bracketed host passes without being a port. -/
theorem bracketed_port_not_read :
    Endpoint.host "[::1]:x" = .ok "::1" ∧ ¬Complete "[::1]:x".toList "::1".toList := by
  have haddress : "[::1]:x".toList = '[' :: "::1".toList ++ closing ++ ['x'] := by
    decide +kernel
  refine ⟨rfl, fun hcomplete => ?_⟩
  rw [haddress] at hcomplete
  obtain ⟨-, hport⟩ := complete_brackets_iff.1 hcomplete
  exact absurd (isPort_iff.2 hport) (by decide)

end AgentRelay.Endpoint
