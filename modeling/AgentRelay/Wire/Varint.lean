import AgentRelay.Wire.Error

/-! Numbers below `2 ^ 64` as groups of seven bits, the lowest first; every byte but the last has
its high bit set. -/
namespace AgentRelay.Wire

abbrev Bytes := List UInt8

def writeVarint (n : Nat) : Bytes :=
  if n < 128 then [UInt8.ofNat n] else UInt8.ofNat (n % 128 + 128) :: writeVarint (n / 128)
termination_by n
decreasing_by omega

/-- At most `left` bytes; the last one of them has room for a single bit. -/
def readVarintFrom : (left : Nat) → Bytes → Except Cause (Nat × Bytes)
  | 0, _ => .error .invalidVarint
  | _ + 1, [] => .error .invalidVarint
  | left + 1, b :: rest =>
    if b.toNat < 128 then
      if left = 0 ∧ 2 ≤ b.toNat then .error .invalidVarint else .ok (b.toNat, rest)
    else
      match readVarintFrom left rest with
      | .ok (m, rest) => .ok (b.toNat - 128 + 128 * m, rest)
      | .error e => .error e

/-- The number at the start, and what follows it. -/
def readVarint (bytes : Bytes) : Except Cause (Nat × Bytes) := readVarintFrom 10 bytes

theorem readVarintFrom_shortens : ∀ {left : Nat} {bytes rest : Bytes} {n : Nat},
    readVarintFrom left bytes = .ok (n, rest) → rest.length < bytes.length
  | 0, _, _, _, h => by simp [readVarintFrom] at h
  | _ + 1, [], _, _, h => by simp [readVarintFrom] at h
  | left + 1, b :: tail, rest, n, h => by
    simp only [readVarintFrom] at h
    split at h
    · split at h
      · cases h
      · cases h; simp
    · split at h
      · rename_i m r hr
        cases h
        have := readVarintFrom_shortens hr
        simp only [List.length_cons]; omega
      · cases h

theorem readVarint_shortens {bytes rest : Bytes} {n : Nat}
    (h : readVarint bytes = .ok (n, rest)) : rest.length < bytes.length :=
  readVarintFrom_shortens h

end AgentRelay.Wire
