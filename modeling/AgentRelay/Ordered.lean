/-! Association lists in ascending order of their keys, at most one entry a key. -/
namespace AgentRelay.Ordered

variable {κ α : Type} [DecidableEq κ] [LT κ] [DecidableLT κ]

/-- Replaces the entry of the key or puts a new one where the order wants it. -/
def insert (key : κ) (value : α) : List (κ × α) → List (κ × α)
  | [] => [(key, value)]
  | (k, v) :: rest =>
    if key = k then (key, value) :: rest
    else if key < k then (key, value) :: (k, v) :: rest
    else (k, v) :: insert key value rest

omit [LT κ] [DecidableLT κ] in
def find? (key : κ) : List (κ × α) → Option α
  | [] => none
  | (k, v) :: rest => if key = k then some v else find? key rest

theorem find?_insert_self (key : κ) (value : α) (m : List (κ × α)) :
    find? key (insert key value m) = some value := by
  induction m with
  | nil => simp [insert, find?]
  | cons e rest ih =>
    obtain ⟨k, v⟩ := e
    by_cases h : key = k
    · simp [insert, find?, h]
    · by_cases hlt : key < k <;> simp [insert, find?, h, hlt, ih]

theorem find?_insert_of_ne {key other : κ} (value : α) (m : List (κ × α))
    (h : other ≠ key) : find? other (insert key value m) = find? other m := by
  induction m with
  | nil => simp [insert, find?, h]
  | cons e rest ih =>
    obtain ⟨k, v⟩ := e
    by_cases hk : key = k
    · subst hk; simp [insert, find?, h]
    · by_cases hlt : key < k
      · simp [insert, find?, hk, hlt, h]
      · by_cases ho : other = k <;> simp [insert, find?, hk, hlt, ho, ih]

end AgentRelay.Ordered
