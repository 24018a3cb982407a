/-! Unsigned decimal numbers as they appear in addresses and settings: an optional plus sign and
ASCII digits, up to a largest value. -/
namespace AgentRelay.Text

/-- The number that decimal digits write. -/
def decimalValue (digits : List Char) : Nat :=
  digits.foldl (fun n c => n * 10 + (c.toNat - '0'.toNat)) 0

/-- The digits after an optional plus sign. -/
def unsignedDigits : List Char → List Char
  | '+' :: digits => digits
  | digits => digits

/-- `none` for no digits, for any other character and for a value above `largest`. -/
def unsigned? (largest : Nat) (s : List Char) : Option Nat :=
  let digits := unsignedDigits s
  if digits ≠ [] ∧ digits.all Char.isDigit ∧ decimalValue digits ≤ largest then
    some (decimalValue digits)
  else none

theorem le_of_unsigned? {largest n : Nat} {s : List Char} (h : unsigned? largest s = some n) :
    n ≤ largest := by
  simp only [unsigned?] at h
  split at h
  · rename_i hc
    cases h
    exact hc.2.2
  · cases h

end AgentRelay.Text
