import AgentRelay.Ordered

/-! Association lists in which the keys ascend. An insertion keeps them so, looking a key up finds
all that they hold, and merging one into another treats every key once. -/
namespace AgentRelay.Ordered

variable {κ α β : Type} [LT κ]

/-- The keys ascend; so no key has two entries. -/
def Sorted (m : List (κ × α)) : Prop := m.Pairwise fun a b => a.1 < b.1

theorem sorted_nil : Sorted ([] : List (κ × α)) := .nil

/-- Changing values leaves the order of the keys as it is. -/
theorem Sorted.map {m : List (κ × α)} (h : Sorted m) (f : α → β) :
    Sorted (m.map fun e => (e.1, f e.2)) := List.pairwise_map.2 h

variable [DecidableEq κ]

omit [LT κ] in
theorem find?_map (key : κ) (f : α → β) (m : List (κ × α)) :
    find? key (m.map fun e => (e.1, f e.2)) = (find? key m).map f := by
  induction m with
  | nil => rfl
  | cons e rest ih => by_cases h : key = e.1 <;> simp [find?, h, ih]

omit [LT κ] in
theorem mem_of_find? {key : κ} {value : α} {m : List (κ × α)} (h : find? key m = some value) :
    (key, value) ∈ m := by
  induction m with
  | nil => cases h
  | cons e rest ih =>
    by_cases hkey : key = e.1
    · simp only [find?, if_pos hkey, Option.some.injEq] at h
      rw [hkey, ← h]
      exact List.mem_cons_self
    · simp only [find?, if_neg hkey] at h
      exact List.mem_cons_of_mem _ (ih h)

omit [LT κ] in
theorem isSome_find?_iff {key : κ} {m : List (κ × α)} :
    (find? key m).isSome ↔ key ∈ m.map Prod.fst := by
  induction m with
  | nil => simp [find?]
  | cons e rest ih => by_cases h : key = e.1 <;> simp [find?, h, ih]

omit [DecidableEq κ] in
theorem Sorted.nodup_keys [Std.Irrefl (α := κ) (· < ·)] {m : List (κ × α)} (h : Sorted m) :
    (m.map Prod.fst).Nodup := by
  refine List.pairwise_map.2 (h.imp fun {a b} hlt heq => ?_)
  rw [heq] at hlt
  exact Std.Irrefl.irrefl b.1 hlt

theorem Sorted.mem_iff [Std.Irrefl (α := κ) (· < ·)] {m : List (κ × α)} (h : Sorted m) {key : κ}
    {value : α} : (key, value) ∈ m ↔ find? key m = some value := by
  refine ⟨fun hmem => ?_, mem_of_find?⟩
  induction h with
  | nil => cases hmem
  | @cons e rest hlt _ ih =>
    obtain ⟨first, _⟩ := e
    obtain heq | hlater := List.mem_cons.1 hmem
    · cases heq
      simp [find?]
    · have hne : key ≠ first := by
        rintro rfl
        exact Std.Irrefl.irrefl key (hlt (key, value) hlater)
      simp only [find?, if_neg hne]
      exact ih hlater

/-- What a key contributes to a traversal, when no other contributes to it. -/
theorem Sorted.flatMap_eq [Std.Irrefl (α := κ) (· < ·)] {m : List (κ × α)} (h : Sorted m)
    (key : κ) (f : κ × α → List β) :
    (m.flatMap fun e => if e.1 = key then f e else []) =
      ((find? key m).map fun value => f (key, value)).getD [] := by
  induction h with
  | nil => rfl
  | @cons e rest hlt _ ih =>
    obtain ⟨first, value⟩ := e
    rw [List.flatMap_cons]
    by_cases hkey : first = key
    · have hrest : (rest.flatMap fun e => if e.1 = key then f e else []) = [] :=
        List.flatMap_eq_nil_iff.2 fun e he => if_neg fun heq =>
          Std.Irrefl.irrefl key (by simpa [hkey, heq] using hlt e he)
      simp [find?, hkey, hrest]
    · simp [find?, hkey, Ne.symm hkey, ih]

section

variable [DecidableLT κ]

theorem eq_or_mem_of_mem_insert {e : κ × α} {key : κ} {value : α} {m : List (κ × α)}
    (h : e ∈ insert key value m) : e = (key, value) ∨ e ∈ m := by
  induction m with
  | nil => simpa [insert] using h
  | cons f rest ih =>
    unfold insert at h
    split at h
    · exact (List.mem_cons.1 h).imp_right (List.mem_cons_of_mem _)
    · split at h
      · exact List.mem_cons.1 h
      · obtain rfl | h := List.mem_cons.1 h
        · exact .inr List.mem_cons_self
        · exact (ih h).imp_right (List.mem_cons_of_mem _)

theorem length_le_insert (key : κ) (value : α) (m : List (κ × α)) :
    m.length ≤ (insert key value m).length := by
  induction m with
  | nil => exact Nat.zero_le _
  | cons e rest ih =>
    unfold insert
    split
    · exact Nat.le_refl _
    · split
      · exact Nat.le_succ _
      · exact Nat.succ_le_succ ih

/-- A key above all others goes to the end. -/
theorem insert_eq_append [Std.Asymm (α := κ) (· < ·)] {key : κ} (value : α) {m : List (κ × α)}
    (h : ∀ e ∈ m, e.1 < key) : insert key value m = m ++ [(key, value)] := by
  induction m with
  | nil => rfl
  | cons e rest ih =>
    obtain ⟨hlt, hrest⟩ := List.forall_mem_cons.1 h
    have hne : key ≠ e.1 := fun heq => Std.Asymm.asymm _ _ hlt (by rwa [← heq] at hlt ⊢)
    rw [insert, if_neg hne, if_neg (Std.Asymm.asymm _ _ hlt), ih hrest, List.cons_append]

theorem Sorted.insert [Std.Trichotomous (α := κ) (· < ·)]
    [Trans (α := κ) (β := κ) (γ := κ) (· < ·) (· < ·) (· < ·)] {m : List (κ × α)} (h : Sorted m)
    (key : κ) (value : α) : Sorted (insert key value m) := by
  induction h with
  | nil => exact List.pairwise_singleton _ _
  | @cons e rest hlt hrest ih =>
    unfold Ordered.insert
    split
    · rename_i heq
      exact .cons (fun f hf => heq ▸ hlt f hf) hrest
    · rename_i hne
      split
      · rename_i hkey
        refine .cons (fun f hf => ?_) (.cons hlt hrest)
        obtain rfl | hf := List.mem_cons.1 hf
        · exact hkey
        · exact Trans.trans hkey (hlt f hf)
      · rename_i hkey
        refine .cons (fun f hf => ?_) ih
        obtain rfl | hf := eq_or_mem_of_mem_insert hf
        · exact Decidable.byContradiction fun hnot =>
            hne (Std.Trichotomous.trichotomous key e.1 hkey hnot)
        · exact hlt f hf

/-- Merging the entries of `t` into a map changes the value of each of their keys once, whatever
there was before. -/
theorem find?_foldl_insert [Std.Irrefl (α := κ) (· < ·)] {t : List (κ × β)} (ht : Sorted t)
    (f : Option α → β → α) (key : κ) (m : List (κ × α)) :
    find? key (t.foldl (fun m e => insert e.1 (f (find? e.1 m) e.2) m) m) =
      match find? key t with
      | none => find? key m
      | some b => some (f (find? key m) b) := by
  induction ht generalizing m with
  | nil => rfl
  | @cons e rest hlt _ ih =>
    obtain ⟨first, b⟩ := e
    rw [List.foldl_cons, ih]
    by_cases h : key = first
    · subst h
      have hrest : find? key rest = none := by
        cases hfound : find? key rest with
        | none => rfl
        | some b => exact absurd (hlt _ (mem_of_find? hfound)) (Std.Irrefl.irrefl key)
      simp [find?, hrest, find?_insert_self]
    · simp [find?, h, find?_insert_of_ne _ _ h]

end

end AgentRelay.Ordered
