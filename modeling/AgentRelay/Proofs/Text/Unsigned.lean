import AgentRelay.Text.Unsigned

/-! Unsigned numbers are read where they are spelled, and nowhere else: in decimal digits, at least
one of them, with or without a plus sign before them, and up to the largest value. -/
namespace AgentRelay.Text

/-- The text is the number in decimal digits, with or without a plus sign before them. -/
def Spells (text : List Char) (n : Nat) : Prop :=
  ∃ digits, (text = digits ∨ text = '+' :: digits) ∧ digits ≠ [] ∧
    (∀ c ∈ digits, c.isDigit = true) ∧ Nat.ofDigitChars 10 digits 0 = n

theorem decimalValue_eq_ofDigitChars (digits : List Char) :
    decimalValue digits = Nat.ofDigitChars 10 digits 0 := by
  have hstep : (fun n (c : Char) => n * 10 + (c.toNat - '0'.toNat)) =
      fun n c => 10 * n + (c.toNat - '0'.toNat) := by
    funext n c
    rw [Nat.mul_comm]
  rw [decimalValue, hstep]
  rfl

theorem eq_unsignedDigits (text : List Char) :
    text = unsignedDigits text ∨ text = '+' :: unsignedDigits text := by
  unfold unsignedDigits
  split
  · exact .inr rfl
  · exact .inl rfl

theorem unsignedDigits_of_all {digits : List Char} (h : ∀ c ∈ digits, c.isDigit = true) :
    unsignedDigits digits = digits := by
  unfold unsignedDigits
  split
  · have hplus := h '+' List.mem_cons_self
    cases hplus
  · rfl

section

variable {text : List Char} {largest n : Nat}

theorem spells_iff :
    Spells text n ↔ unsignedDigits text ≠ [] ∧
      (∀ c ∈ unsignedDigits text, c.isDigit = true) ∧ decimalValue (unsignedDigits text) = n := by
  simp only [decimalValue_eq_ofDigitChars]
  constructor
  · rintro ⟨digits, rfl | rfl, hne, hdigits, hvalue⟩
    · rw [unsignedDigits_of_all hdigits]
      exact ⟨hne, hdigits, hvalue⟩
    · exact ⟨hne, hdigits, hvalue⟩
  · intro h
    exact ⟨_, eq_unsignedDigits text, h⟩

/-- What is read is what is spelled. -/
theorem unsigned?_eq_some_iff : unsigned? largest text = some n ↔ Spells text n ∧ n ≤ largest := by
  rw [spells_iff, unsigned?]
  simp only [List.all_eq_true, Option.ite_none_right_eq_some, Option.some.injEq]
  constructor
  · rintro ⟨⟨hne, hdigits, hle⟩, rfl⟩
    exact ⟨⟨hne, hdigits, rfl⟩, hle⟩
  · rintro ⟨⟨hne, hdigits, rfl⟩, hle⟩
    exact ⟨⟨hne, hdigits, hle⟩, rfl⟩

theorem unsigned?_eq_none_iff :
    unsigned? largest text = none ↔ ∀ n, Spells text n → largest < n := by
  constructor
  · intro h n hn
    apply Nat.lt_of_not_le
    intro hle
    rw [unsigned?_eq_some_iff.2 ⟨hn, hle⟩] at h
    cases h
  · intro h
    cases hread : unsigned? largest text with
    | none => rfl
    | some n =>
      obtain ⟨hn, hle⟩ := unsigned?_eq_some_iff.1 hread
      exact absurd (h n hn) (Nat.not_lt.2 hle)

theorem Spells.unique {m : Nat} (hm : Spells text m) (hn : Spells text n) : m = n := by
  obtain ⟨-, -, hvalue⟩ := spells_iff.1 hm
  obtain ⟨-, -, hvalue'⟩ := spells_iff.1 hn
  exact hvalue.symm.trans hvalue'

end

theorem spells_toDigits (n : Nat) : Spells (Nat.toDigits 10 n) n :=
  ⟨_, .inl rfl, Nat.toDigits_ne_nil,
    fun _ => Nat.isDigit_of_mem_toDigits (by decide) (by decide), Nat.ofDigitChars_ten_toDigits⟩

/-- A printed number is read again, up to the largest value. -/
theorem unsigned?_toDigits {largest n : Nat} (h : n ≤ largest) :
    unsigned? largest (Nat.toDigits 10 n) = some n :=
  unsigned?_eq_some_iff.2 ⟨spells_toDigits n, h⟩

end AgentRelay.Text
