import AgentRelay.Text.Replace
import Mathlib.Data.List.Find
import Mathlib.Data.List.Infix

/-! Placeholders and what is put in their places. A placeholder is a word in braces, so two of them
never overlap, and a text falls apart at each of them: substitution treats the parts on their own.
Replacing one more placeholder in the result of a substitution gives what the larger substitution
gives at once if that placeholder occurs in the result no more often than in the text; otherwise only
if it stands for itself. The further occurrences are those that labels have brought about. -/
namespace AgentRelay.Text

/-! ### Placeholders -/

/-- A word in braces. -/
def Bracketed (key : List Char) : Prop :=
  ∃ word, key = '\x7b' :: (word ++ ['\x7d']) ∧ '\x7b' ∉ word ∧ '\x7d' ∉ word

section

variable {key other a b : List Char} (h : Bracketed key)

include h

/-- The opening brace is the first character and no other. -/
theorem Bracketed.exists_cons : ∃ tail, key = '\x7b' :: tail ∧ '\x7b' ∉ tail := by
  obtain ⟨word, rfl, hopen, -⟩ := h
  exact ⟨_, rfl, by simp [hopen]⟩

theorem Bracketed.ne_nil : key ≠ [] := by
  obtain ⟨tail, rfl, -⟩ := h.exists_cons
  exact List.cons_ne_nil _ _

theorem Bracketed.not_starts {c : Char} (hc : c ≠ '\x7b') : ¬key <+: c :: b := by
  obtain ⟨tail, rfl, -⟩ := h.exists_cons
  intro hkey
  exact hc (List.cons_prefix_cons.1 hkey).1.symm

/-- A placeholder that starts in front of another ends in front of it. -/
theorem Bracketed.prefix_of_append (hother : Bracketed other) (ha : a ≠ [])
    (hkey : key <+: a ++ other ++ b) : key <+: a := by
  obtain ⟨tail, rfl, htail⟩ := h.exists_cons
  obtain ⟨tail', rfl, -⟩ := hother.exists_cons
  obtain ⟨c, a, rfl⟩ := List.exists_cons_of_ne_nil ha
  obtain ⟨rest, hrest⟩ := hkey
  rw [List.append_assoc] at hrest
  obtain ⟨u, heq, -⟩ | ⟨u, heq, hu⟩ := List.append_eq_append_iff.1 hrest
  · exact ⟨u, heq.symm⟩
  · cases u with
    | nil => exact ⟨[], by simp [heq]⟩
    | cons d u =>
      -- the second one would start inside the first
      have hd : '\x7b' = d := (List.cons.inj hu).1
      have htail' : tail = a ++ d :: u := (List.cons.inj heq).2
      exact absurd (by simp [htail', ← hd]) htail

/-- Two placeholders that start together are one. -/
theorem Bracketed.eq_of_starts (hother : Bracketed other) (hkey : key <+: other ++ b) :
    key = other := by
  obtain ⟨word, rfl, -, hclose⟩ := h
  obtain ⟨word', rfl, -, hclose'⟩ := hother
  obtain ⟨rest, hrest⟩ := hkey
  have hcut : word ++ '\x7d' :: rest = word' ++ '\x7d' :: b := by simpa using hrest
  obtain ⟨u, heq, hu⟩ | ⟨u, heq, hu⟩ := List.append_eq_append_iff.1 hcut
  all_goals
    cases u with
    | nil => simp [heq]
    | cons d u =>
      -- the longer word would hold the brace that ends the shorter
      cases hu
      simp [heq] at hclose hclose'

end

/-! ### Substitution -/

/-- A placeholder and the text that is put in its place. -/
abbrev Label := List Char × List Char

/-- The characters to pass over belong to a placeholder that has been read. -/
def substituteFrom (labels : List Label) : (pass : Nat) → List Char → List Char
  | _, [] => []
  | pass + 1, _ :: rest => substituteFrom labels pass rest
  | 0, c :: rest =>
    match labels.find? fun l => l.1.isPrefixOf (c :: rest) with
    | some l => l.2 ++ substituteFrom labels (l.1.length - 1) rest
    | none => c :: substituteFrom labels 0 rest

/-- Puts all labels in their places in one pass over the text. -/
def substitute (labels : List Label) (s : List Char) : List Char := substituteFrom labels 0 s

/-- What a placeholder becomes. -/
def labelOf (labels : List Label) (key : List Char) : List Char :=
  match labels.find? (·.1 = key) with
  | some l => l.2
  | none => key

theorem labelOf_cons_self (l : Label) (labels : List Label) : labelOf (l :: labels) l.1 = l.2 := by
  simp [labelOf]

theorem labelOf_cons_of_ne {l : Label} {key : List Char} (labels : List Label) (h : l.1 ≠ key) :
    labelOf (l :: labels) key = labelOf labels key := by
  simp [labelOf, h]

section

variable {labels : List Label} {key : List Char} (h : ∀ l ∈ labels, l.1 ≠ key)

include h

theorem find?_key_eq_none : labels.find? (·.1 = key) = none := by
  apply List.find?_eq_none.2
  simpa using h

theorem labelOf_eq_self : labelOf labels key = key := by
  simp only [labelOf, find?_key_eq_none h]

theorem labelOf_concat (label : List Char) : labelOf (labels ++ [(key, label)]) key = label := by
  simp [labelOf, List.find?_append, find?_key_eq_none h]

end

section

variable (labels : List Label) (a b : List Char)

@[simp] theorem substitute_nil : substitute labels [] = [] := rfl

theorem substituteFrom_eq_drop (pass : Nat) (s : List Char) :
    substituteFrom labels pass s = substitute labels (s.drop pass) := by
  induction s generalizing pass with
  | nil => cases pass <;> rfl
  | cons c rest ih =>
    cases pass with
    | zero => rfl
    | succ pass => exact ih pass

/-- Replacing is a substitution of one placeholder. -/
theorem replace_eq_substitute (key label s : List Char) :
    replace key label s = substitute [(key, label)] s := by
  suffices h : ∀ pass, replaceFrom key label pass s = substituteFrom [(key, label)] pass s from h 0
  induction s with
  | nil => intro pass; cases pass <;> rfl
  | cons c rest ih =>
    intro pass
    cases pass with
    | zero =>
      rw [replaceFrom, substituteFrom, List.find?_singleton]
      split
      · simp only [ih]
      · simp only [ih]
    | succ pass => exact ih pass

variable {labels a b}

theorem substitute_cons {c : Char} {rest : List Char} (h : ∀ l ∈ labels, ¬l.1 <+: c :: rest) :
    substitute labels (c :: rest) = c :: substitute labels rest := by
  have hnone : labels.find? (fun l => l.1.isPrefixOf (c :: rest)) = none := by
    apply List.find?_eq_none.2
    intro l hl
    rw [List.isPrefixOf_iff_prefix]
    exact h l hl
  rw [substitute, substituteFrom, hnone]
  rfl

variable (hlabels : ∀ l ∈ labels, Bracketed l.1)

include hlabels

/-- No placeholder starts where there is no opening brace. -/
theorem substitute_append_of_not_mem (ha : '\x7b' ∉ a) :
    substitute labels (a ++ b) = a ++ substitute labels b := by
  induction a with
  | nil => rfl
  | cons c a ih =>
    obtain ⟨hc, ha⟩ := not_or.1 (mt List.mem_cons.2 ha)
    rw [List.cons_append, substitute_cons, ih ha, List.cons_append]
    intro l hl
    exact (hlabels l hl).not_starts (Ne.symm hc)

theorem substitute_key {key : List Char} (hkey : Bracketed key) :
    substitute labels (key ++ b) = labelOf labels key ++ substitute labels b := by
  have hstarts : ∀ l ∈ labels, l.1.isPrefixOf (key ++ b) = decide (l.1 = key) := by
    intro l hl
    rw [Bool.eq_iff_iff, List.isPrefixOf_iff_prefix, decide_eq_true_iff]
    constructor
    · exact (hlabels l hl).eq_of_starts hkey
    · rintro rfl
      exact List.prefix_append _ _
  have hfind := List.find?_congr hstarts
  obtain ⟨tail, hcons, htail⟩ := hkey.exists_cons
  unfold labelOf
  cases hlabel : labels.find? (·.1 = key) with
  | some l =>
    have heq : l.1 = key := by simpa using List.find?_some hlabel
    rw [hcons, List.cons_append] at hfind ⊢
    rw [substitute, substituteFrom, hfind, ← hcons, hlabel]
    simp only [substituteFrom_eq_drop, heq, hcons]
    simp
  | none =>
    have hnone : ∀ l ∈ labels, ¬l.1 <+: key ++ b := by
      intro l hl
      rw [← List.isPrefixOf_iff_prefix, hstarts l hl]
      exact List.find?_eq_none.1 hlabel l hl
    rw [hcons, List.cons_append] at hnone ⊢
    rw [substitute_cons hnone, substitute_append_of_not_mem hlabels htail]
    rfl

/-- Whatever a pass over a text keeps at each placeholder it reads, and at each character where none
starts, holds of all texts. -/
theorem pass_induction {P : List Char → Prop} (nil : P [])
    (key : ∀ l ∈ labels, ∀ rest, P rest → P (l.1 ++ rest))
    (cons : ∀ c rest, (∀ l ∈ labels, ¬l.1 <+: c :: rest) → P rest → P (c :: rest))
    (s : List Char) : P s := by
  induction hn : s.length using Nat.strongRecOn generalizing s with
  | ind n ih =>
    cases s with
    | nil => exact nil
    | cons c rest =>
      by_cases hstart : ∃ l ∈ labels, l.1 <+: c :: rest
      · obtain ⟨l, hl, after, hafter⟩ := hstart
        have hpos := List.length_pos_iff.2 (hlabels l hl).ne_nil
        have hlength := congrArg List.length hafter
        rw [List.length_append] at hlength
        rw [← hafter]
        exact key l hl after (ih after.length (by omega) after rfl)
      · have hlt : rest.length < n := by
          rw [← hn]
          exact Nat.lt_succ_self _
        apply cons c rest _ (ih rest.length hlt rest rfl)
        intro l hl hstarts
        exact hstart ⟨l, hl, hstarts⟩

/-- A text falls apart at a placeholder. -/
theorem substitute_append_key {key : List Char} (hkey : Bracketed key) (a b : List Char) :
    substitute labels (a ++ key ++ b) =
      substitute labels a ++ labelOf labels key ++ substitute labels b := by
  induction a using pass_induction hlabels with
  | nil => simpa using substitute_key hlabels hkey
  | key l hl rest ih =>
    rw [List.append_assoc, List.append_assoc, substitute_key hlabels (hlabels l hl),
      ← List.append_assoc rest, ih, substitute_key hlabels (hlabels l hl)]
    simp only [List.append_assoc]
  | cons c rest hnone ih =>
    have hnone' : ∀ l ∈ labels, ¬l.1 <+: c :: (rest ++ key ++ b) := by
      intro l hl hstarts
      exact hnone l hl ((hlabels l hl).prefix_of_append hkey (List.cons_ne_nil c rest) hstarts)
    rw [List.cons_append, List.cons_append, substitute_cons hnone', ih, substitute_cons hnone]
    rfl

omit hlabels in
/-- A text without placeholders stays as it is. -/
theorem substitute_of_absent {s : List Char} (h : ∀ l ∈ labels, ¬l.1 <:+: s) :
    substitute labels s = s := by
  induction s with
  | nil => rfl
  | cons c s ih =>
    rw [substitute_cons fun l hl hstarts => h l hl hstarts.isInfix, ih]
    intro l hl hin
    exact h l hl (hin.trans (List.suffix_cons c s).isInfix)

end

/-! ### Occurrences -/

/-- How often a placeholder occurs in a text. -/
def occurrences (key s : List Char) : Nat := s.tails.countP (key.isPrefixOf ·)

section

variable {key a b s : List Char}

theorem occurrences_cons (key : List Char) (c : Char) (s : List Char) :
    occurrences key (c :: s) = occurrences key s + if key <+: c :: s then 1 else 0 := by
  simp only [occurrences, List.tails_cons, List.countP_cons, List.isPrefixOf_iff_prefix]

/-- The first occurrence leaves none in front of it. -/
theorem exists_first (hne : key ≠ []) (h : key <:+: s) :
    ∃ a b, s = a ++ key ++ b ∧ ¬key <:+: a := by
  induction s with
  | nil => exact absurd (List.eq_nil_of_infix_nil h) hne
  | cons c s ih =>
    by_cases hstart : key <+: c :: s
    · obtain ⟨b, hb⟩ := hstart
      exact ⟨[], b, hb.symm, fun hin => hne (List.eq_nil_of_infix_nil hin)⟩
    · obtain ⟨a, b, rfl, ha⟩ := ih ((List.infix_cons_iff.1 h).resolve_left hstart)
      refine ⟨c :: a, b, rfl, fun hin => ?_⟩
      obtain hstarts | hin := List.infix_cons_iff.1 hin
      · exact hstart (hstarts.trans ⟨key ++ b, by simp⟩)
      · exact ha hin

/-- Whatever holds of texts without an occurrence, and behind the first one carries over to the whole
text, holds of all texts. -/
theorem occurrence_induction (hne : key ≠ []) {P : List Char → Prop}
    (none : ∀ s, ¬key <:+: s → P s)
    (first : ∀ a b, ¬key <:+: a → P b → P (a ++ key ++ b)) (s : List Char) : P s := by
  induction hn : s.length using Nat.strongRecOn generalizing s with
  | ind n ih =>
    by_cases hin : key <:+: s
    · obtain ⟨a, b, rfl, ha⟩ := exists_first hne hin
      have hpos := List.length_pos_iff.2 hne
      simp only [List.length_append] at hn
      exact first a b ha (ih b.length (by omega) b rfl)
    · exact none s hin

variable (hkey : Bracketed key)

include hkey

theorem occurrences_nil : occurrences key [] = 0 := by
  obtain ⟨tail, rfl, -⟩ := hkey.exists_cons
  rfl

theorem occurrences_eq_zero_iff : occurrences key s = 0 ↔ ¬key <:+: s := by
  induction s with
  | nil =>
    have hnone : ¬key <:+: [] := fun hin => hkey.ne_nil (List.eq_nil_of_infix_nil hin)
    simp [occurrences_nil hkey, hnone]
  | cons c s ih => simp [occurrences_cons, List.infix_cons_iff, ih, and_comm]

theorem occurrences_append_of_not_mem (ha : '\x7b' ∉ a) :
    occurrences key (a ++ b) = occurrences key b := by
  induction a with
  | nil => rfl
  | cons c a ih =>
    obtain ⟨hc, ha⟩ := not_or.1 (mt List.mem_cons.2 ha)
    rw [List.cons_append, occurrences_cons, if_neg (hkey.not_starts (Ne.symm hc)), ih ha]
    rfl

theorem occurrences_append_key :
    occurrences key (a ++ key ++ b) = occurrences key a + 1 + occurrences key b := by
  induction a with
  | nil =>
    obtain ⟨tail, hcons, htail⟩ := hkey.exists_cons
    have hstart : key <+: '\x7b' :: (tail ++ b) := ⟨b, by rw [hcons]; rfl⟩
    rw [List.nil_append, occurrences_nil hkey]
    conv_lhs => arg 2; rw [hcons]
    rw [List.cons_append, occurrences_cons, if_pos hstart, occurrences_append_of_not_mem hkey htail]
    omega
  | cons c a ih =>
    have hstart : key <+: c :: (a ++ key ++ b) ↔ key <+: c :: a := by
      constructor
      · exact hkey.prefix_of_append hkey (List.cons_ne_nil c a)
      · intro h
        exact h.trans ⟨key ++ b, by simp⟩
    rw [List.cons_append, List.cons_append, occurrences_cons, occurrences_cons, ih]
    simp only [hstart]
    omega

end

/-! ### One placeholder more -/

/-- The texts are the same, except that the second has the label in `n` places in which the first
has the placeholder. -/
inductive Exchanged (key label : List Char) : List Char → List Char → Nat → Prop
  | same (s : List Char) : Exchanged key label s s 0
  | next (a : List Char) {s r : List Char} {n : Nat} (h : Exchanged key label s r n) :
      Exchanged key label (a ++ key ++ s) (a ++ label ++ r) (n + 1)

section

variable {key label : List Char} (hkey : Bracketed key)

include hkey

theorem bracketed_singleton : ∀ l ∈ [(key, label)], Bracketed l.1 := by
  intro l hl
  obtain rfl := List.mem_singleton.1 hl
  exact hkey

theorem replace_append_key (a b : List Char) :
    replace key label (a ++ key ++ b) = replace key label a ++ label ++ replace key label b := by
  simp only [replace_eq_substitute]
  rw [substitute_append_key (bracketed_singleton hkey) hkey]
  simp [labelOf]

variable {labels : List Label} (hlabels : ∀ l ∈ labels, Bracketed l.1)

include hlabels

theorem bracketed_concat : ∀ l ∈ labels ++ [(key, label)], Bracketed l.1 := by
  intro l hl
  obtain hl | hl := List.mem_append.1 hl
  · exact hlabels l hl
  · exact bracketed_singleton hkey l hl

/-- Where the further placeholder does not occur, its label makes no difference. -/
theorem substitute_concat_of_absent {s : List Char} (h : ¬key <:+: s) :
    substitute (labels ++ [(key, label)]) s = substitute labels s := by
  induction s using pass_induction hlabels with
  | nil => rfl
  | key l hl rest ih =>
    have hsome : ∃ found, labels.find? (·.1 = l.1) = some found :=
      Option.isSome_iff_exists.1 (List.find?_isSome.2 ⟨l, hl, by simp⟩)
    obtain ⟨found, hfound⟩ := hsome
    have hrest : ¬key <:+: rest := fun hin => h (hin.trans (List.suffix_append _ _).isInfix)
    rw [substitute_key (bracketed_concat hkey hlabels) (hlabels l hl), ih hrest,
      substitute_key hlabels (hlabels l hl)]
    simp [labelOf, List.find?_append, hfound]
  | cons c rest hnone ih =>
    have hrest : ¬key <:+: rest := fun hin => h (hin.trans (List.suffix_cons c rest).isInfix)
    have hnone' : ∀ l ∈ labels ++ [(key, label)], ¬l.1 <+: c :: rest := by
      intro l hl
      obtain hl | hl := List.mem_append.1 hl
      · exact hnone l hl
      · obtain rfl := List.mem_singleton.1 hl
        exact fun hstarts => h hstarts.isInfix
    rw [substitute_cons hnone', ih hrest, substitute_cons hnone]

/-- With one placeholder more, a substitution makes a difference where the text has that
placeholder. -/
theorem exchanged_substitute (hnew : ∀ l ∈ labels, l.1 ≠ key) (s : List Char) :
    Exchanged key label (substitute labels s) (substitute (labels ++ [(key, label)]) s)
      (occurrences key s) := by
  have hlabels' : ∀ l ∈ labels ++ [(key, label)], Bracketed l.1 := bracketed_concat hkey hlabels
  induction s using occurrence_induction hkey.ne_nil with
  | none s hin =>
    rw [substitute_concat_of_absent hkey hlabels hin, (occurrences_eq_zero_iff hkey).2 hin]
    exact .same _
  | first a b ha ih =>
    rw [substitute_append_key hlabels hkey, substitute_append_key hlabels' hkey,
      occurrences_append_key hkey, (occurrences_eq_zero_iff hkey).2 ha, labelOf_eq_self hnew,
      labelOf_concat hnew, substitute_concat_of_absent hkey hlabels ha, Nat.zero_add, Nat.add_comm]
    exact .next _ ih

end

section

variable {key label s r : List Char} {n : Nat}

theorem replace_of_absent (h : ¬key <:+: s) : replace key label s = s := by
  rw [replace_eq_substitute, substitute_of_absent]
  intro l hl
  obtain rfl := List.mem_singleton.1 hl
  exact h

variable (hkey : Bracketed key)

include hkey

theorem exists_of_occurrences_pos (h : 0 < occurrences key s) :
    ∃ a b, s = a ++ key ++ b ∧ ¬key <:+: a := by
  apply exists_first hkey.ne_nil
  apply Decidable.byContradiction
  intro hnone
  rw [(occurrences_eq_zero_iff hkey).2 hnone] at h
  exact Nat.lt_irrefl 0 h

theorem length_replace (s : List Char) :
    (replace key label s).length + key.length * occurrences key s =
      s.length + label.length * occurrences key s := by
  induction s using occurrence_induction hkey.ne_nil with
  | none s hin =>
    rw [replace_of_absent hin, (occurrences_eq_zero_iff hkey).2 hin]
    rfl
  | first a b ha ih =>
    rw [replace_append_key hkey, replace_of_absent ha, occurrences_append_key hkey,
      (occurrences_eq_zero_iff hkey).2 ha]
    simp only [List.length_append, Nat.mul_add, Nat.mul_one, Nat.mul_zero]
    omega

theorem Exchanged.le (h : Exchanged key label s r n) : n ≤ occurrences key s := by
  induction h with
  | same s => exact Nat.zero_le _
  | next a h ih =>
    rw [occurrences_append_key hkey]
    omega

/-- Where all occurrences are exchanged, that is what replacing does. -/
theorem Exchanged.replace_eq (h : Exchanged key label s r n) (hn : occurrences key s = n) :
    replace key label s = r := by
  induction h with
  | same s => exact replace_of_absent ((occurrences_eq_zero_iff hkey).1 hn)
  | next a h ih =>
    have hle := h.le hkey
    rw [occurrences_append_key hkey] at hn
    have ha : occurrences key a = 0 := by omega
    rw [replace_append_key hkey, ih (by omega),
      replace_of_absent ((occurrences_eq_zero_iff hkey).1 ha)]

omit hkey in
theorem Exchanged.length (h : Exchanged key label s r n) :
    r.length + key.length * n = s.length + label.length * n := by
  induction h with
  | same s => rfl
  | next a h ih =>
    simp only [List.length_append, Nat.mul_succ]
    omega

theorem replace_self (s : List Char) : replace key key s = s := by
  induction s using occurrence_induction hkey.ne_nil with
  | none s hin => exact replace_of_absent hin
  | first a b ha ih => rw [replace_append_key hkey, replace_of_absent ha, ih]

omit hkey in
theorem Exchanged.eq_of_self (h : Exchanged key key s r n) : r = s := by
  induction h with
  | same s => rfl
  | next a h ih => rw [ih]

section

variable (hlength : label.length = key.length)

include hlength

theorem length_replace_eq (s : List Char) : (replace key label s).length = s.length := by
  have h : (replace key label s).length + key.length * occurrences key s =
      s.length + label.length * occurrences key s := length_replace hkey s
  rw [hlength] at h
  omega

/-- A text in which replacing makes no difference has no occurrence, or the placeholder stands for
itself. -/
theorem eq_of_replace_eq (heq : replace key label s = s) (hpos : 0 < occurrences key s) :
    label = key := by
  obtain ⟨a, b, rfl, ha⟩ := exists_of_occurrences_pos hkey hpos
  rw [replace_append_key hkey, replace_of_absent ha, List.append_assoc,
    List.append_assoc] at heq
  exact (List.append_inj (List.append_cancel_left heq) hlength).1

theorem Exchanged.label_eq (h : Exchanged key label s r n) (heq : replace key label s = r)
    (hlt : n < occurrences key s) : label = key := by
  induction h with
  | same s => exact eq_of_replace_eq hkey hlength heq hlt
  | @next a s r n h ih =>
    rw [replace_append_key hkey, List.append_assoc, List.append_assoc] at heq
    obtain ⟨ha, hrest⟩ := List.append_inj heq (length_replace_eq hkey hlength a)
    rw [occurrences_append_key hkey] at hlt
    by_cases hs : n < occurrences key s
    · exact ih (List.append_cancel_left hrest) hs
    · exact eq_of_replace_eq hkey hlength ha (by omega)

end

/-- Replacing exchanges no more than was exchanged, or the placeholder stands for itself. -/
theorem Exchanged.replace_eq_iff (h : Exchanged key label s r n) :
    replace key label s = r ↔ label = key ∨ occurrences key s = n := by
  constructor
  · intro heq
    have hle := h.le hkey
    by_cases hn : occurrences key s = n
    · exact .inr hn
    · -- a label of another length would show in the length of the text
      obtain ⟨more, hmore⟩ := Nat.exists_eq_add_of_le hle
      have hexchange := h.length
      have hreplace : (replace key label s).length + key.length * occurrences key s =
          s.length + label.length * occurrences key s := length_replace hkey s
      rw [heq, hmore, Nat.mul_add, Nat.mul_add] at hreplace
      have hsame : label.length * more = key.length * more := by omega
      have hlength := Nat.eq_of_mul_eq_mul_right (by omega) hsame
      exact .inl (h.label_eq hkey hlength heq (by omega))
  · rintro (rfl | hn)
    · rw [replace_self hkey, h.eq_of_self]
    · exact h.replace_eq hkey hn

/-- Replacing one placeholder more in the result of a substitution. -/
theorem replace_substitute_iff {labels : List Label} (hlabels : ∀ l ∈ labels, Bracketed l.1)
    (hnew : ∀ l ∈ labels, l.1 ≠ key) (s : List Char) :
    replace key label (substitute labels s) = substitute (labels ++ [(key, label)]) s ↔
      label = key ∨ occurrences key (substitute labels s) = occurrences key s :=
  (exchanged_substitute hkey hlabels hnew s).replace_eq_iff hkey

end

end AgentRelay.Text
