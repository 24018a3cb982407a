import AgentRelay.Certificate.Canonical

/-! Private keys of RSA, with the two primes and the numbers that are derived from them. -/
namespace AgentRelay.Key

open Certificate Certificate.Canonical

/-- The exponents are the private one modulo each prime less one; the coefficient is the inverse of
the second prime modulo the first. -/
structure Rsa where
  modulus : Nat
  publicExponent : Nat
  privateExponent : Nat
  prime₁ : Nat
  prime₂ : Nat
  exponent₁ : Nat
  exponent₂ : Nat
  coefficient : Nat

namespace Rsa

/-- The number of bits that a number takes. -/
def bitLength (n : Nat) : Nat := if n = 0 then 0 else Nat.log2 n + 1

/-- Half as long as the modulus, in steps of 512 bits. -/
def isPrimeLike (modulus p : Nat) : Bool :=
  p % 2 = 1 && bitLength p = (bitLength modulus + 1) / 2 && bitLength p % 512 = 0

def isExponentFor (p e : Nat) : Bool := e % 2 = 1 && e < p

/-- From 2048 to 4096 bits, and the numbers belong together. -/
def isConsistent (k : Rsa) : Bool :=
  let n := k.modulus
  n % 2 = 1 && 2048 ≤ (bitLength n + 7) / 8 * 8 && bitLength n ≤ 4096 &&
    k.publicExponent % 2 = 1 && 65537 ≤ k.publicExponent && k.publicExponent < 0x200000000 &&
    isPrimeLike n k.prime₁ && isPrimeLike n k.prime₂ && k.prime₁ * k.prime₂ = n &&
    k.privateExponent % 2 = 1 && (bitLength n + 1) / 2 < bitLength k.privateExponent &&
    k.privateExponent < n &&
    isExponentFor k.prime₁ k.exponent₁ && isExponentFor k.prime₂ k.exponent₂ &&
    k.coefficient < k.prime₁ && k.coefficient * k.prime₂ % k.prime₁ = 1

/-- Eight numbers behind the version zero. -/
def read? (bytes : Bytes) : Option Rsa := do
  let (version, rest) ← natural? (← only? .sequence bytes)
  let (modulus, rest) ← natural? rest
  let (publicExponent, rest) ← natural? rest
  let (privateExponent, rest) ← natural? rest
  let (prime₁, rest) ← natural? rest
  let (prime₂, rest) ← natural? rest
  let (exponent₁, rest) ← natural? rest
  let (exponent₂, rest) ← natural? rest
  let (coefficient, rest) ← natural? rest
  let key : Rsa := ⟨modulus, publicExponent, privateExponent, prime₁, prime₂, exponent₁, exponent₂,
    coefficient⟩
  if version = 0 ∧ rest = [] ∧ key.isConsistent then return key else none

/-- Modulus and exponent. -/
def publicKey (k : Rsa) : Bytes :=
  wrap .sequence (natural k.modulus ++ natural k.publicExponent)

end Rsa

end AgentRelay.Key
