import AgentRelay.Key.Modular
import AgentRelay.Text.Base64

/-! Elliptic curves `y² = x³ - 3x + b` over a prime field. A private key is a number, and its public
key is that multiple of a base point. -/
namespace AgentRelay.Key

open AgentRelay.Key.Modular

/-- The order is that of the base point; a coordinate takes `size` bytes. -/
structure Curve where
  prime : Nat
  order : Nat
  baseX : Nat
  baseY : Nat
  size : Nat

namespace Curve

/-- The curve P-256. -/
def p256 : Curve where
  prime := 0xFFFFFFFF00000001000000000000000000000000FFFFFFFFFFFFFFFFFFFFFFFF
  order := 0xFFFFFFFF00000000FFFFFFFFFFFFFFFFBCE6FAADA7179E84F3B9CAC2FC632551
  baseX := 0x6B17D1F2E12C4247F8BCE6E563A440F277037D812DEB33A0F4A13945D898C296
  baseY := 0x4FE342E2FE1A7F9B8EE7EB4A7C0F9E162BCE33576B315ECECBB6406837BF51F5
  size := 32

/-! The numbers of the curve P-384. -/

def p384Prime : Nat :=
  0xFFFFFFFFFFFFFFFFFFFFFFFFFFFFFFFFFFFFFFFFFFFFFFFFFFFFFFFFFFFFFFFEFFFFFFFF0000000000000000FFFFFFFF

def p384Order : Nat :=
  0xFFFFFFFFFFFFFFFFFFFFFFFFFFFFFFFFFFFFFFFFFFFFFFFFC7634D81F4372DDF581A0DB248B0A77AECEC196ACCC52973

def p384BaseX : Nat :=
  0xAA87CA22BE8B05378EB1C71EF320AD746E1D3B628BA79B9859F741E082542A385502F25DBF55296C3A545E3872760AB7

def p384BaseY : Nat :=
  0x3617DE4A96262C6F5D9E98BF9292DC29F8F41DBD289A147CE9DA3113B5F0B8C00A60B1CE1D7E819D7A431D7C90EA0E5F

/-- The curve P-384. -/
def p384 : Curve := ⟨p384Prime, p384Order, p384BaseX, p384BaseY, 48⟩

/-- `none` is the point at infinity. -/
abbrev Point := Option (Nat × Nat)

/-- The sum of two points, read off the line through them with the given slope. -/
def along (c : Curve) (slope x₁ y₁ x₂ : Nat) : Point :=
  let p := c.prime
  let x := sub p (sub p (mul p slope slope) x₁) x₂
  some (x, sub p (mul p slope (sub p x₁ x)) y₁)

def double (c : Curve) : Point → Point
  | none => none
  | some (x, y) =>
    let p := c.prime
    if y = 0 then none
    else c.along (mul p (mul p 3 (sub p (mul p x x) 1)) (inverse p (mul p 2 y))) x y x

def add (c : Curve) : Point → Point → Point
  | none, q => q
  | q, none => q
  | some (x₁, y₁), some (x₂, y₂) =>
    let p := c.prime
    if x₁ = x₂ then if y₁ = y₂ then c.double (some (x₁, y₁)) else none
    else c.along (mul p (sub p y₂ y₁) (inverse p (sub p x₂ x₁))) x₁ y₁ x₂

/-- A multiple of a point, by repeated doubling. -/
def times (c : Curve) (n : Nat) (q : Point) : Point :=
  if n = 0 then none
  else
    let rest := c.times (n / 2) (c.double q)
    if n % 2 = 1 then c.add q rest else rest
termination_by n
decreasing_by omega

/-- The uncompressed form of a point. -/
def encode (c : Curve) : Point → List UInt8
  | none => [0]
  | some (x, y) => 4 :: (Text.Base64.bytesOf x c.size ++ Text.Base64.bytesOf y c.size)

/-- The public key of a private key, which is a number from one up to the order. -/
def publicKey? (c : Curve) (secret : Nat) : Option (List UInt8) :=
  if 0 < secret ∧ secret < c.order then
    some (c.encode (c.times secret (some (c.baseX, c.baseY))))
  else none

end Curve

end AgentRelay.Key
