import AgentRelay.Event
import AgentRelay.Proofs.Text.Substitution

/-! The text of an event with the labels in place. The labels are filled in one after the other, so a
placeholder that comes about by a label, alone or together with the text around it, is filled in as
well if its turn is still to come. The result is that of putting all labels in at once exactly where
this does not happen. -/
namespace AgentRelay.Event

open Text

/-! ### References -/

/-- A placeholder and the subject that it stands for, if that is present. -/
abbrev Reference := String × Option Subject

/-- What stands in the place of a reference. -/
def Reference.text (r : Reference) : String := (r.2.map Subject.label).getD r.1

def Reference.label (r : Reference) : Option Label :=
  r.2.map fun s => (r.1.toList, s.label.toList)

def machineReference (e : Event) : Reference := ("\x7bmachine\x7d", e.machine)

def appReference (e : Event) : Reference := ("\x7bapp\x7d", e.app)

def daemonReference (e : Event) : Reference := ("\x7bdaemon\x7d", e.daemon)

def references (e : Event) : List Reference :=
  [e.machineReference, e.appReference, e.daemonReference]

section

variable {r : Reference}

theorem key_of_label {l : Label} (h : r.label = some l) : l.1 = r.1.toList := by
  obtain ⟨s, -, rfl⟩ := Option.map_eq_some_iff.1 h
  rfl

theorem label_of_absent (h : r.2 = none) : r.label = none := by
  rw [Reference.label, h]
  rfl

theorem text_of_absent (h : r.2 = none) : r.text = r.1 := by
  rw [Reference.text, h]
  rfl

theorem label_of_present {s : Subject} (h : r.2 = some s) :
    r.label = some (r.1.toList, r.text.toList) := by
  rw [Reference.label, Reference.text, h]
  rfl

end

theorem bracketed_references {e : Event} {r : Reference} (hr : r ∈ e.references) :
    Bracketed r.1.toList := by
  have hname : r.1 ∈ ["\x7bmachine\x7d", "\x7bapp\x7d", "\x7bdaemon\x7d"] :=
    List.mem_map_of_mem (f := Prod.fst) hr
  simp only [List.mem_cons, List.not_mem_nil, or_false] at hname
  obtain h | h | h := hname <;> rw [h]
  · exact ⟨"machine".toList, by decide⟩
  · exact ⟨"app".toList, by decide⟩
  · exact ⟨"daemon".toList, by decide⟩

theorem nodup_references (e : Event) : (e.references.map Prod.fst).Nodup := by
  show ["\x7bmachine\x7d", "\x7bapp\x7d", "\x7bdaemon\x7d"].Nodup
  decide

/-! ### All labels at once -/

/-- The text with every reference that it makes itself replaced. -/
def putIn (refs : List Reference) (text : List Char) : List Char :=
  substitute (refs.filterMap Reference.label) text

section

variable {refs : List Reference} {r : Reference}

theorem bracketed_labels (hrefs : ∀ r ∈ refs, Bracketed r.1.toList) :
    ∀ l ∈ refs.filterMap Reference.label, Bracketed l.1 := by
  intro l hl
  obtain ⟨r, hr, hlabel⟩ := List.mem_filterMap.1 hl
  rw [key_of_label hlabel]
  exact hrefs r hr

theorem key_ne_of_mem_labels (h : r.1 ∉ refs.map Prod.fst) :
    ∀ l ∈ refs.filterMap Reference.label, l.1 ≠ r.1.toList := by
  intro l hl heq
  obtain ⟨other, hother, hlabel⟩ := List.mem_filterMap.1 hl
  rw [key_of_label hlabel, String.toList_inj] at heq
  exact h (heq ▸ List.mem_map_of_mem hother)

theorem labelOf_labels_head (h : r.1 ∉ refs.map Prod.fst) :
    labelOf ((r :: refs).filterMap Reference.label) r.1.toList = r.text.toList := by
  cases hsubject : r.2 with
  | none =>
    rw [List.filterMap_cons_none (label_of_absent hsubject), text_of_absent hsubject]
    exact labelOf_eq_self (key_ne_of_mem_labels h)
  | some s =>
    rw [List.filterMap_cons_some (label_of_present hsubject)]
    exact labelOf_cons_self (r.1.toList, r.text.toList) _

theorem labelOf_labels_tail {first : Reference} (h : first.1 ≠ r.1) :
    labelOf ((first :: refs).filterMap Reference.label) r.1.toList =
      labelOf (refs.filterMap Reference.label) r.1.toList := by
  cases hlabel : first.label with
  | none => rw [List.filterMap_cons_none hlabel]
  | some l =>
    rw [List.filterMap_cons_some hlabel, labelOf_cons_of_ne]
    rw [key_of_label hlabel]
    exact fun heq => h (String.toList_inj.1 heq)

/-- Among references with different placeholders each has its own label. -/
theorem labelOf_labels (hnodup : (refs.map Prod.fst).Nodup) (hr : r ∈ refs) :
    labelOf (refs.filterMap Reference.label) r.1.toList = r.text.toList := by
  induction refs with
  | nil => cases hr
  | cons first refs ih =>
    obtain ⟨hfirst, hnodup⟩ := List.nodup_cons.1 hnodup
    obtain rfl | hr := List.mem_cons.1 hr
    · exact labelOf_labels_head hfirst
    · have hne : first.1 ≠ r.1 := fun heq => hfirst (heq ▸ List.mem_map_of_mem hr)
      rw [labelOf_labels_tail hne]
      exact ih hnodup hr

theorem putIn_append_reference (hrefs : ∀ r ∈ refs, Bracketed r.1.toList)
    (hnodup : (refs.map Prod.fst).Nodup) (hr : r ∈ refs) (a b : List Char) :
    putIn refs (a ++ r.1.toList ++ b) = putIn refs a ++ r.text.toList ++ putIn refs b := by
  rw [putIn, substitute_append_key (bracketed_labels hrefs) (hrefs r hr), labelOf_labels hnodup hr]
  rfl

theorem putIn_of_absent {text : List Char}
    (h : ∀ r ∈ refs, r.2.isSome → ¬r.1.toList <:+: text) : putIn refs text = text := by
  apply substitute_of_absent
  intro l hl
  obtain ⟨r, hr, hlabel⟩ := List.mem_filterMap.1 hl
  have hsome : r.2.isSome := by
    rw [← Option.isSome_map, show r.2.map _ = some l from hlabel]
    rfl
  rw [key_of_label hlabel]
  exact h r hr hsome

/-! ### One label after the other -/

/-- The placeholder of a subject does not come about by the labels that are filled in before it. -/
def Undisturbed (text : List Char) (before : List Reference) (r : Reference) : Prop :=
  ∀ s, r.2 = some s → s.label = r.1 ∨
    occurrences r.1.toList (putIn before text) = occurrences r.1.toList text

/-- Filling in one label more is putting it in at once exactly where its placeholder has not come
about. -/
theorem fill_putIn_iff {before : List Reference} (hbefore : ∀ r ∈ before, Bracketed r.1.toList)
    (hr : Bracketed r.1.toList) (hnew : r.1 ∉ before.map Prod.fst) (text : List Char) :
    fill r.1 r.2 (putIn before text) = putIn (before ++ [r]) text ↔ Undisturbed text before r := by
  obtain ⟨placeholder, subject⟩ := r
  cases subject with
  | none => simp [fill, putIn, Reference.label, Undisturbed, List.filterMap_cons]
  | some s =>
    simp only [fill, putIn, Reference.label, Undisturbed, Option.map_some, Option.some.injEq,
      forall_eq', List.filterMap_append, List.filterMap_cons, List.filterMap_nil]
    rw [replace_substitute_iff hr (bracketed_labels hbefore) (key_ne_of_mem_labels hnew),
      String.toList_inj]

end

/-! ### The rendered text -/

/-- The text with all labels put in at once. -/
def atOnce (e : Event) : String := String.ofList (putIn e.references e.text.toList)

def withoutDaemon (e : Event) : Event := { e with daemon := none }

/-- Each reference of an event comes to be filled in. -/
theorem fill_reference_iff {e : Event} {before after : List Reference} {r : Reference}
    (h : e.references = before ++ r :: after) (text : List Char) :
    fill r.1 r.2 (putIn before text) = putIn (before ++ [r]) text ↔ Undisturbed text before r := by
  have hbracketed : ∀ other ∈ before ++ r :: after, Bracketed other.1.toList := by
    rw [← h]
    exact fun other => bracketed_references
  have hnodup : ((before ++ r :: after).map Prod.fst).Nodup := h ▸ e.nodup_references
  rw [List.map_append, List.map_cons] at hnodup
  apply fill_putIn_iff
  · exact fun other hother => hbracketed other (List.mem_append_left _ hother)
  · exact hbracketed r (List.mem_append_right _ (List.mem_cons_self ..))
  · intro hmem
    exact (List.nodup_append.1 hnodup).2.2 r.1 hmem r.1 (List.mem_cons_self ..) rfl

/-- Nothing is filled in before the label of the machine. -/
theorem fill_machine (e : Event) :
    fill e.machineReference.1 e.machineReference.2 e.text.toList =
      putIn [e.machineReference] e.text.toList := by
  have hnone : putIn [] e.text.toList = e.text.toList := putIn_of_absent (by simp)
  have hfirst : Undisturbed e.text.toList [] e.machineReference := by
    intro s _
    exact .inr (by rw [hnone])
  have hfill : fill e.machineReference.1 e.machineReference.2 (putIn [] e.text.toList) =
      putIn [e.machineReference] e.text.toList :=
    (fill_reference_iff (e := e) rfl e.text.toList).2 hfirst
  rwa [hnone] at hfill

/-- The text with the labels of the machine and the app filled in. -/
theorem render_withoutDaemon_iff (e : Event) :
    e.withoutDaemon.render = e.withoutDaemon.atOnce ↔
      Undisturbed e.text.toList [e.machineReference] e.appReference := by
  have hrender : e.withoutDaemon.render = String.ofList
      (fill e.appReference.1 e.appReference.2
        (fill e.machineReference.1 e.machineReference.2 e.text.toList)) := rfl
  have hlast : putIn e.withoutDaemon.references e.text.toList =
      putIn ([e.machineReference] ++ [e.appReference]) e.text.toList := rfl
  rw [hrender, atOnce, String.ofList_inj, fill_machine, ← fill_reference_iff (e := e) rfl, ← hlast]
  rfl

theorem render_iff (e : Event) :
    e.withoutDaemon.render = e.withoutDaemon.atOnce ∧ e.render = e.atOnce ↔
      Undisturbed e.text.toList [e.machineReference] e.appReference ∧
        Undisturbed e.text.toList [e.machineReference, e.appReference] e.daemonReference := by
  rw [← render_withoutDaemon_iff]
  apply and_congr_right
  intro hbefore
  have hrender : e.render = String.ofList
      (fill e.daemonReference.1 e.daemonReference.2 e.withoutDaemon.render.toList) := by
    simp only [render, withoutDaemon, String.toList_ofList]
    rfl
  rw [← fill_reference_iff (e := e) rfl, hrender, hbefore, atOnce, atOnce, String.ofList_inj,
    String.toList_ofList]
  rfl

/-- Where no placeholder comes about by a label before its turn, the labels can be filled in one after
the other. -/
theorem render_eq_atOnce {e : Event}
    (happ : Undisturbed e.text.toList [e.machineReference] e.appReference)
    (hdaemon : Undisturbed e.text.toList [e.machineReference, e.appReference] e.daemonReference) :
    e.render = e.atOnce := by
  obtain ⟨-, hrender⟩ := (render_iff e).2 ⟨happ, hdaemon⟩
  exact hrender

/-- Putting all labels in at once replaces each placeholder by the label of its subject as it is, or
leaves it where there is no subject, and leaves all other text. With the labels filled in one after
the other, the rendered text is the same, and was so before the daemon's turn, exactly if no
placeholder has come about by a label when its turn comes, except one that stands for itself. -/
theorem render_at_once_iff (e : Event) :
    (∀ r ∈ e.references, ∀ a b, putIn e.references (a ++ r.1.toList ++ b) =
      putIn e.references a ++ r.text.toList ++ putIn e.references b) ∧
    (∀ text, (∀ r ∈ e.references, r.2.isSome → ¬r.1.toList <:+: text) →
      putIn e.references text = text) ∧
    (e.withoutDaemon.render = e.withoutDaemon.atOnce ∧ e.render = e.atOnce ↔
      Undisturbed e.text.toList [e.machineReference] e.appReference ∧
        Undisturbed e.text.toList [e.machineReference, e.appReference] e.daemonReference) := by
  refine ⟨?_, ?_, e.render_iff⟩
  · intro r hr a b
    exact putIn_append_reference (fun other => bracketed_references) e.nodup_references hr a b
  · intro text htext
    exact putIn_of_absent htext

/-- A failure of a daemon of an app whose name is in braces. -/
def bracedApp : Event where
  level := .error
  text := "\x7bdaemon\x7d of \x7bapp\x7d on \x7bmachine\x7d"
  app := some ⟨2, "\x7bkea\x7d"⟩
  daemon := some ⟨3, "dhcp4"⟩

theorem render_at_once_bracedApp :
    putIn bracedApp.references " failed".toList = " failed".toList ∧
      bracedApp.render = "dhcp4 of \x7bkea\x7d on \x7bmachine\x7d" ∧
      bracedApp.render = bracedApp.atOnce := by
  obtain ⟨-, htext, hiff⟩ := render_at_once_iff bracedApp
  refine ⟨htext _ (by decide), by decide +kernel, ?_⟩
  apply And.right
  apply hiff.2
  constructor
  · intro s _
    exact .inr (by decide +kernel)
  · intro s _
    exact .inr (by decide +kernel)

/-- The label of the machine is the placeholder of the app. -/
def nested : Event where
  level := .info
  text := "\x7bmachine\x7d"
  machine := some ⟨1, "\x7bapp\x7d"⟩
  app := some ⟨2, "x"⟩

theorem label_filled_in_again :
    nested.render = "x" ∧ nested.atOnce = "\x7bapp\x7d" ∧ ¬∀ e : Event, e.render = e.atOnce := by
  have hrender : nested.render = "x" := by decide +kernel
  have hatOnce : nested.atOnce = "\x7bapp\x7d" := by decide +kernel
  refine ⟨hrender, hatOnce, fun hall => ?_⟩
  have heq := hall nested
  rw [hrender, hatOnce] at heq
  exact absurd heq (by decide)

end AgentRelay.Event
