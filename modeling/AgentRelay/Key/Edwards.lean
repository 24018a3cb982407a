import AgentRelay.Digest
import AgentRelay.Key.Modular

/-! The curve `y² - x² = 1 + d x² y²` over the integers modulo `2²⁵⁵ - 19`, as Ed25519 uses it. -/
namespace AgentRelay.Key.Edwards

open AgentRelay.Key.Modular

def prime : Nat := 0x7FFFFFFFFFFFFFFFFFFFFFFFFFFFFFFFFFFFFFFFFFFFFFFFFFFFFFFFFFFFFFED

/-- The constant `d` of the curve. -/
def coefficient : Nat := 0x52036CEE2B6FFE738CC740797779E89800700A4D4141D8AB75EB4DCA135978A3

/-- A point as `x/z` and `y/z`; `t/z` is their product. -/
structure Point where
  x : Nat
  y : Nat
  z : Nat
  t : Nat

def zero : Point := ⟨0, 1, 1, 0⟩

def base : Point :=
  let x := 0x216936D3CD6E53FEC0A4E231FDD6DC5C692CC7609525A7B2C9562D608F25D51A
  let y := 0x6666666666666666666666666666666666666666666666666666666666666658
  ⟨x, y, 1, mul prime x y⟩

/-- The sum of two points; it is right for equal ones too. -/
def Point.add (p q : Point) : Point :=
  let m := mul prime
  let a := m (sub prime p.y p.x) (sub prime q.y q.x)
  let b := m (p.y + p.x) (q.y + q.x)
  let c := m (m (2 * coefficient) p.t) q.t
  let d := m (2 * p.z) q.z
  let e := sub prime b a
  let f := sub prime d c
  let g := d + c
  let h := b + a
  ⟨m e f, m g h, m f g, m e h⟩

/-- A multiple of a point, by repeated doubling. -/
def Point.times (n : Nat) (p : Point) : Point :=
  if n = 0 then zero
  else
    let rest := times (n / 2) (p.add p)
    if n % 2 = 1 then p.add rest else rest
termination_by n
decreasing_by omega

def littleEndian (bytes : List UInt8) : Nat := bytes.foldr (fun b n => b.toNat + n * 256) 0

/-- The second coordinate, the lowest byte first, with the lowest bit of the first coordinate in the
highest bit. -/
def Point.encode (p : Point) : List UInt8 :=
  let scale := inverse prime p.z
  let n := mul prime p.y scale + mul prime p.x scale % 2 * Nat.pow 2 255
  (List.range 32).map fun i => UInt8.ofNat (n / Nat.pow 256 i)

/-- The number that a seed stands for: the first half of its digest, made a multiple of eight with
255 bits. -/
def scalar (seed : List UInt8) : Nat :=
  let n := littleEndian ((Digest.sha512 seed).take 32) % Nat.pow 2 254
  n - n % 8 + Nat.pow 2 254

def publicKey (seed : List UInt8) : List UInt8 := (base.times (scalar seed)).encode

end AgentRelay.Key.Edwards
