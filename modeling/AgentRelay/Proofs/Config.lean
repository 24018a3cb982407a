import AgentRelay.Config
import AgentRelay.Proofs.Text.Unsigned
import Mathlib.Data.List.Nodup

/-! What the settings come to. Each is decided by its own variable: the number that the variable
spells, blanks around it aside, if that is positive and fits, and the default otherwise. Every text
that is refused is reported, except a zero, which is refused after it was read: it is replaced by
the default without a word. So what was configured is followed or reported exactly where no variable
spells zero. -/
namespace AgentRelay.Config

/-! ### One setting -/

/-- The number that the value of a variable stands for. -/
def Means (raw : String) (n : Nat) : Prop := Text.Spells (Text.trimChars raw.toList) n

/-- A number that can be set. -/
def Valid (raw : String) (n : Nat) : Prop := Means raw n ∧ 0 < n ∧ n ≤ largest

def refusal (name raw : String) : Log.Entry :=
  ⟨.warn, "invalid value, using default", [("variable", .text name), ("value", .text raw)]⟩

/-- Whether an entry of the log names a variable. -/
def names (name : String) (e : Log.Entry) : Bool := e.fields.contains ("variable", .text name)

section

variable {values : String → Option String} {name raw : String} (default : Nat)

theorem setting_unset (h : values name = none) : setting values name default = (default, []) := by
  simp only [setting, h]

theorem setting_number {n : Nat} (h : values name = some raw) (hmeans : Means raw n)
    (hle : n ≤ largest) : setting values name default = (if 0 < n then n else default, []) := by
  have hread := Text.unsigned?_eq_some_iff.2 ⟨hmeans, hle⟩
  simp only [setting, h, hread]

theorem setting_refused (h : values name = some raw) (hnone : ∀ n, Means raw n → largest < n) :
    setting values name default = (default, [refusal name raw]) := by
  have hread := Text.unsigned?_eq_none_iff.2 hnone
  simp only [setting, h, hread, refusal]

/-- A variable is not set, is a number that fits, or is refused. -/
theorem setting_cases (values : String → Option String) (name : String) :
    values name = none ∨ ∃ raw, values name = some raw ∧
      ((∃ n, Means raw n ∧ n ≤ largest) ∨ ∀ n, Means raw n → largest < n) := by
  cases h : values name with
  | none => exact .inl rfl
  | some raw =>
    refine .inr ⟨raw, rfl, ?_⟩
    by_cases hnumber : ∃ n, Means raw n ∧ n ≤ largest
    · exact .inl hnumber
    · refine .inr fun n hn => Nat.lt_of_not_le fun hle => hnumber ⟨n, hn, hle⟩

/-- Nothing but a refusal of its own variable is logged. -/
theorem eq_refusal_of_mem {e : Log.Entry} (h : e ∈ (setting values name default).2) :
    ∃ raw, e = refusal name raw := by
  obtain hunset | ⟨raw, hraw, ⟨n, hmeans, hle⟩ | hnone⟩ := setting_cases values name
  · rw [setting_unset default hunset] at h
    cases h
  · rw [setting_number default hraw hmeans hle] at h
    cases h
  · rw [setting_refused default hraw hnone] at h
    exact ⟨raw, List.mem_singleton.1 h⟩

theorem setting_pos (h : 0 < default) : 0 < (setting values name default).1 := by
  obtain hunset | ⟨raw, hraw, ⟨n, hmeans, hle⟩ | hnone⟩ := setting_cases values name
  · rwa [setting_unset default hunset]
  · rw [setting_number default hraw hmeans hle]
    split <;> assumption
  · rwa [setting_refused default hraw hnone]

end

theorem names_refusal (name other raw : String) :
    names name (refusal other raw) = decide (name = other) := by
  simp [names, refusal]

/-! ### All settings -/

/-- A setting with the variable that decides it. -/
structure Setting where
  name : String
  field : Config → Nat

/-- What the setting is without the variable. -/
def Setting.default (s : Setting) : Nat := s.field {}

def settings : List Setting := [
  ⟨queueCapacityVariable, queueCapacity⟩,
  ⟨connectTimeoutVariable, connectTimeout⟩,
  ⟨requestTimeoutVariable, requestTimeout⟩,
  ⟨keepAliveIntervalVariable, keepAliveInterval⟩,
  ⟨keepAliveTimeoutVariable, keepAliveTimeout⟩]

theorem nodup_names : (settings.map Setting.name).Nodup := by decide

/-- Elements with a key of their own: what one of them adds is all that is left when the others add
nothing. -/
theorem flatMap_eq_of_mem {α β κ : Type} {key : α → κ} {l : List α} {f : α → List β} {a : α}
    (hnodup : (l.map key).Nodup) (ha : a ∈ l) (hothers : ∀ b ∈ l, key b ≠ key a → f b = []) :
    l.flatMap f = f a := by
  induction l with
  | nil => cases ha
  | cons b l ih =>
    obtain ⟨hnot, hnodup⟩ := List.nodup_cons.1 hnodup
    obtain ⟨hb, hl⟩ := List.forall_mem_cons.1 hothers
    rw [List.flatMap_cons]
    obtain rfl | ha := List.mem_cons.1 ha
    · have hrest : l.flatMap f = [] := by
        apply List.flatMap_eq_nil_iff.2
        intro c hc
        apply hl c hc
        intro heq
        exact hnot (heq ▸ List.mem_map_of_mem hc)
      rw [hrest, List.append_nil]
    · have hne : key b ≠ key a := fun heq => hnot (heq ▸ List.mem_map_of_mem ha)
      rw [hb hne, List.nil_append, ih hnodup ha hl]

section

variable (values : String → Option String)

/-- What the log says of a setting. -/
def Setting.reports (s : Setting) (logs : List Log.Entry) : List Log.Entry :=
  logs.filter (names s.name)

theorem logs_read :
    (read values).2 = settings.flatMap fun s => (setting values s.name s.default).2 := by
  simp [read, settings, Setting.default]

variable {s : Setting} (h : s ∈ settings)

include h

theorem default_pos : 0 < s.default := by
  revert s
  simp only [settings, List.forall_mem_cons]
  decide

theorem field_read : s.field (read values).1 = (setting values s.name s.default).1 := by
  revert s
  simp only [settings, List.forall_mem_cons]
  exact ⟨rfl, rfl, rfl, rfl, rfl, fun _ h => absurd h List.not_mem_nil⟩

theorem reports_read : s.reports (read values).2 = (setting values s.name s.default).2 := by
  have hnames : ∀ t : Setting, ∀ e ∈ (setting values t.name t.default).2,
      names s.name e = decide (s.name = t.name) := by
    intro t e he
    obtain ⟨raw, rfl⟩ := eq_refusal_of_mem t.default he
    exact names_refusal s.name t.name raw
  rw [Setting.reports, logs_read, List.filter_flatMap]
  rw [flatMap_eq_of_mem nodup_names h]
  · apply List.filter_eq_self.2
    intro e he
    simp [hnames s e he]
  · intro t _ hne
    apply List.filter_eq_nil_iff.2
    intro e he
    simp [hnames t e he, Ne.symm hne]

end

/-! ### What is promised -/

/-- What was configured is followed, or else it is reported: without a value the setting is the
default, a number that can be set is set, and neither is logged; any other value gives the default
and one refusal. -/
def Setting.Honest (s : Setting) (value : Option String) (result : Config × List Log.Entry) :
    Prop :=
  match value with
  | none => s.field result.1 = s.default ∧ s.reports result.2 = []
  | some raw =>
    (∀ n, Valid raw n → s.field result.1 = n ∧ s.reports result.2 = []) ∧
      ((∀ n, ¬Valid raw n) →
        s.field result.1 = s.default ∧ s.reports result.2 = [refusal s.name raw])

section

variable {values : String → Option String} {s : Setting} (h : s ∈ settings) {raw : String}

include h

/-- A zero gives the default, and nobody is told. -/
theorem read_zero (hraw : values s.name = some raw) (hzero : Means raw 0) :
    s.field (read values).1 = s.default ∧ s.reports (read values).2 = [] := by
  rw [field_read values h, reports_read values h,
    setting_number s.default hraw hzero (Nat.zero_le _)]
  exact ⟨rfl, rfl⟩

theorem not_honest_of_zero (hraw : values s.name = some raw) (hzero : Means raw 0) :
    ¬s.Honest (values s.name) (read values) := by
  intro hhonest
  have hinvalid : ∀ n, ¬Valid raw n := by
    intro n hn
    have hn0 : n = 0 := hn.1.unique hzero
    exact absurd hn.2.1 (by omega)
  simp only [Setting.Honest, hraw] at hhonest
  have hreport := (hhonest.2 hinvalid).2
  rw [(read_zero h hraw hzero).2] at hreport
  cases hreport

theorem honest_of_nonzero (hnonzero : ∀ raw, values s.name = some raw → ¬Means raw 0) :
    s.Honest (values s.name) (read values) := by
  have hfield := field_read values h
  have hreports := reports_read values h
  obtain hunset | ⟨raw, hraw, ⟨n, hmeans, hle⟩ | hnone⟩ := setting_cases values s.name
  · rw [setting_unset s.default hunset] at hfield hreports
    rw [hunset]
    exact ⟨hfield, hreports⟩
  · have hpos : 0 < n := by
      apply Nat.pos_of_ne_zero
      rintro rfl
      exact hnonzero raw hraw hmeans
    rw [setting_number s.default hraw hmeans hle, if_pos hpos] at hfield
    rw [setting_number s.default hraw hmeans hle] at hreports
    rw [hraw]
    refine ⟨fun m hm => ?_, fun hinvalid => absurd ⟨hmeans, hpos, hle⟩ (hinvalid n)⟩
    exact ⟨hfield.trans (hmeans.unique hm.1), hreports⟩
  · rw [setting_refused s.default hraw hnone] at hfield hreports
    rw [hraw]
    refine ⟨fun n hn => ?_, fun _ => ⟨hfield, hreports⟩⟩
    exact absurd hn.2.2 (Nat.not_le.2 (hnone n hn.1))

end

/-- A setting is followed or reported exactly where its variable spells no zero; a zero gives the
default without a report. Whatever the variables hold, every setting is positive, no variable has a
part in the setting of another or in what is logged of it, and nothing is logged but that. -/
theorem settings_honest_iff (values : String → Option String) :
    (∀ s ∈ settings,
      (s.Honest (values s.name) (read values) ↔
        ∀ raw, values s.name = some raw → ¬Means raw 0) ∧
      (∀ raw, values s.name = some raw → Means raw 0 →
        s.field (read values).1 = s.default ∧ s.reports (read values).2 = []) ∧
      0 < s.field (read values).1 ∧
      ∀ values' : String → Option String, values' s.name = values s.name →
        s.field (read values').1 = s.field (read values).1 ∧
          s.reports (read values').2 = s.reports (read values).2) ∧
    ∀ e ∈ (read values).2, ∃ s ∈ settings, e ∈ s.reports (read values).2 := by
  constructor
  · intro s hs
    refine ⟨⟨fun hhonest raw hraw hzero => ?_, honest_of_nonzero hs⟩,
      fun raw => read_zero hs, ?_, fun values' hsame => ?_⟩
    · exact not_honest_of_zero hs hraw hzero hhonest
    · rw [field_read values hs]
      exact setting_pos s.default (default_pos hs)
    · have hsetting : setting values' s.name s.default = setting values s.name s.default := by
        simp only [setting, hsame]
      simp only [field_read _ hs, reports_read _ hs, hsetting, and_self]
  · intro e he
    rw [logs_read] at he
    obtain ⟨s, hs, he⟩ := List.mem_flatMap.1 he
    refine ⟨s, hs, ?_⟩
    rwa [reports_read values hs]

/-- A capacity with blanks and a sign, and a timeout that is no number. -/
def mixedValues (name : String) : Option String :=
  if name = queueCapacityVariable then some " +16\n"
  else if name = connectTimeoutVariable then some "soon"
  else none

theorem settings_honest_iff_mixed :
    read mixedValues = (⟨16, 10, 30, 30, 20⟩, [refusal connectTimeoutVariable "soon"]) ∧
      ∀ s ∈ settings, (∀ raw, mixedValues s.name = some raw → ¬Means raw 0) ∧
        s.Honest (mixedValues s.name) (read mixedValues) := by
  have hnonzero : ∀ name raw, mixedValues name = some raw → ¬Means raw 0 := by
    intro name raw hraw hzero
    have hread := Text.unsigned?_eq_some_iff.2 ⟨hzero, Nat.zero_le largest⟩
    unfold mixedValues at hraw
    split at hraw
    · cases hraw
      exact absurd hread (by decide +kernel)
    · split at hraw <;> cases hraw
      exact absurd hread (by decide +kernel)
  refine ⟨by decide +kernel, fun s hs => ⟨hnonzero s.name, ?_⟩⟩
  exact ((settings_honest_iff mixedValues).1 s hs).1.2 (hnonzero s.name)

def zeroCapacity (name : String) : Option String :=
  if name = queueCapacityVariable then some "0" else none

/-- A queue without room is refused without a word. -/
theorem zero_capacity_not_reported :
    read zeroCapacity = ({}, []) ∧
      ¬∀ s ∈ settings, s.Honest (zeroCapacity s.name) (read zeroCapacity) := by
  refine ⟨by decide +kernel, fun h => ?_⟩
  have hraw : zeroCapacity queueCapacityVariable = some "0" := rfl
  have hread : Text.unsigned? largest (Text.trimChars "0".toList) = some 0 := by decide +kernel
  have hzero : Means "0" 0 := (Text.unsigned?_eq_some_iff.1 hread).1
  have hmem : ⟨queueCapacityVariable, queueCapacity⟩ ∈ settings := List.mem_cons_self
  exact not_honest_of_zero hmem hraw hzero (h _ hmem)

end AgentRelay.Config
