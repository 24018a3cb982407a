import AgentRelay.Json.Printer
import AgentRelay.Json.Scan

/-! Printed strings and whole numbers are scanned back. Every escape brings the scanner over one
character of the text, whatever follows; the digits of a number are taken up to the first character
that is none, and what can follow a value never goes on with a number. -/
namespace AgentRelay.Json

/-- What can follow a value: the end of the text, a comma or a closing bracket. -/
inductive Stop : List Char → Prop
  | done : Stop []
  | comma (s : List Char) : Stop (',' :: s)
  | bracket (s : List Char) : Stop (']' :: s)
  | brace (s : List Char) : Stop ('\x7d' :: s)

variable {rest : List Char}

/-! ### Strings -/

/-- A control character has four digits. -/
theorem hexQuad_hexPadded {n : Nat} (h : n < 0x20) :
    ∃ a b c d, Text.hexPadded 4 n = [a, b, c, d] ∧ hexQuad a b c d = some n := by
  have hall : ∀ n, n < 0x20 →
      (Text.hexPadded 4 n).length = 4 ∧ Text.hexNumber? (Text.hexPadded 4 n) = some n := by
    decide
  obtain ⟨hlength, hnumber⟩ := hall n h
  match hquad : Text.hexPadded 4 n, hlength with
  | [a, b, c, d], _ =>
    rw [hquad] at hnumber
    exact ⟨a, b, c, d, rfl, hnumber⟩

theorem readString_escaped (done : List Char) (c : Char) (s : List Char) :
    readString done (escaped c ++ s) = readString (c :: done) s := by
  unfold escaped
  -- the seven characters that have a short escape
  iterate 7
    split
    · subst c
      rfl
  split
  · rename_i hcontrol
    obtain ⟨a, b, d, e, hquad, hnumber⟩ := hexQuad_hexPadded hcontrol
    have hlow : isLowSurrogate c.toNat = false := by simp [isLowSurrogate]; omega
    have hhigh : isHighSurrogate c.toNat = false := by simp [isHighSurrogate]; omega
    rw [hquad]
    simp only [List.cons_append, List.nil_append]
    rw [readString]
    simp [hnumber, hlow, hhigh]
  · rename_i hbackslash _ _ _ _ _ hprintable
    rw [List.singleton_append]
    simp [readString, hbackslash, hprintable]

theorem readString_flatMap (done cs : List Char) (rest : List Char) :
    readString done (cs.flatMap escaped ++ '"' :: rest) =
      .ok (String.ofList (done.reverse ++ cs), rest) := by
  induction cs generalizing done with
  | nil => simp [readString]
  | cons c cs ih =>
    rw [List.flatMap_cons, List.append_assoc, readString_escaped, ih]
    simp

/-- A printed string is read back after its opening quote. -/
theorem readString_stringChars (s : String) (rest : List Char) :
    readString [] (s.toList.flatMap escaped ++ '"' :: rest) = .ok (s, rest) := by
  rw [readString_flatMap]
  simp

/-! ### Whole numbers -/

theorem Stop.takeWhile_isDigit (h : Stop rest) : rest.takeWhile Char.isDigit = [] := by
  cases h <;> rfl

theorem Stop.dropWhile_isDigit (h : Stop rest) : rest.dropWhile Char.isDigit = rest := by
  cases h <;> rfl

theorem digitValue_digitChar : ∀ {d : Nat}, d < 10 → digitValue d.digitChar = d := by decide

theorem appendDigits_append {limit m n : Nat} {xs ys : List Char}
    (h : appendDigits limit m xs = (n, [])) :
    appendDigits limit m (xs ++ ys) = appendDigits limit n ys := by
  induction xs generalizing m with
  | nil =>
    cases h
    rfl
  | cons c xs ih =>
    unfold appendDigits at h
    rw [List.cons_append, appendDigits]
    split at h
    · rw [if_pos (by assumption)]
      exact ih h
    · cases h

/-- The digits of a number below the limit are all taken up. -/
theorem appendDigits_toDigits {limit n : Nat} (h : n < limit) :
    appendDigits limit 0 (Nat.toDigits 10 n) = (n, []) := by
  induction n using Nat.strongRecOn with
  | ind n ih =>
    rw [Nat.toDigits_eq_if (by decide)]
    split
    · rename_i hlt
      simp [appendDigits, digitValue_digitChar hlt, h]
    · have hlast := digitValue_digitChar (Nat.mod_lt n (by decide : 10 > 0))
      have hsum : n / 10 * 10 + n % 10 = n := by omega
      rw [appendDigits_append (ih (n / 10) (by omega) (by omega)), appendDigits, hlast, hsum,
        if_pos h, appendDigits]

/-- Only zero starts with the digit zero. -/
theorem exists_toDigits_eq_cons {n : Nat} (h : 0 < n) :
    ∃ c cs, Nat.toDigits 10 n = c :: cs ∧ c ≠ '0' := by
  induction n using Nat.strongRecOn with
  | ind n ih =>
    rw [Nat.toDigits_eq_if (by decide)]
    split
    · rename_i hlt
      have hne : ∀ d, d < 10 → 0 < d → d.digitChar ≠ '0' := by decide
      exact ⟨_, _, rfl, hne n hlt h⟩
    · obtain ⟨c, cs, hdigits, hne⟩ := ih (n / 10) (by omega) (by omega)
      exact ⟨c, cs ++ [(n % 10).digitChar], by rw [hdigits]; rfl, hne⟩

theorem readNumberEnd_of_stop (positive : Bool) {m : Nat} (h : m < 0x10000000000000000)
    (hrest : Stop rest) :
    readNumberEnd positive m 0 rest = .ok (wholeNumber positive m h, rest) := by
  cases hrest <;> simp [readNumberEnd, h]

theorem readNumber_toDigits (positive : Bool) {n : Nat} (h : n < 0x10000000000000000)
    (hrest : Stop rest) :
    readNumber positive (Nat.toDigits 10 n ++ rest) = .ok (wholeNumber positive n h, rest) := by
  obtain rfl | hpos := Nat.eq_zero_or_pos n
  · rw [Nat.toDigits_zero, List.singleton_append, readNumber, hrest.takeWhile_isDigit]
    exact readNumberEnd_of_stop positive h hrest
  · have hall : ∀ c ∈ Nat.toDigits 10 n, c.isDigit = true := fun c =>
      Nat.isDigit_of_mem_toDigits (by decide) (by decide)
    obtain ⟨c, cs, hdigits, hne⟩ := exists_toDigits_eq_cons hpos
    have htake : (Nat.toDigits 10 n ++ rest).takeWhile Char.isDigit = Nat.toDigits 10 n := by
      rw [List.takeWhile_append_of_pos hall, hrest.takeWhile_isDigit, List.append_nil]
    have hdrop : (Nat.toDigits 10 n ++ rest).dropWhile Char.isDigit = rest := by
      rw [List.dropWhile_append_of_pos hall, hrest.dropWhile_isDigit]
    have happend := appendDigits_toDigits h
    rw [hdigits] at hall htake hdrop happend ⊢
    have hfirst := hall c List.mem_cons_self
    rw [List.cons_append] at htake hdrop ⊢
    rw [readNumber]
    · simp only [hfirst, if_true, htake, hdrop, happend]
      exact readNumberEnd_of_stop positive h hrest
    · exact hne

/-- A negative integer is read back after its sign. -/
theorem readNumber_of_neg {n : Int} (hrange : -0x8000000000000000 ≤ n ∧ n < 0x10000000000000000)
    (h : n < 0) (hrest : Stop rest) :
    readNumber false (Nat.toDigits 10 n.natAbs ++ rest) = .ok (.integer n hrange, rest) := by
  have hbound : n.natAbs < 0x10000000000000000 := by omega
  have hlow : 0 < n.natAbs ∧ n.natAbs ≤ 0x8000000000000000 := by omega
  have habs : -(n.natAbs : Int) = n := by omega
  rw [readNumber_toDigits false hbound hrest]
  simp only [wholeNumber, Bool.false_eq_true, if_false, dif_pos hlow, habs]

/-- Any other integer has no sign. -/
theorem readNumber_of_nonneg {n : Int}
    (hrange : -0x8000000000000000 ≤ n ∧ n < 0x10000000000000000) (h : 0 ≤ n) (hrest : Stop rest) :
    readNumber true (Nat.toDigits 10 n.natAbs ++ rest) = .ok (.integer n hrange, rest) := by
  have hbound : n.natAbs < 0x10000000000000000 := by omega
  have habs : (n.natAbs : Int) = n := by omega
  rw [readNumber_toDigits true hbound hrest]
  simp only [wholeNumber, if_true, habs]

end AgentRelay.Json
