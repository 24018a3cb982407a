/-! The fewest decimal digits that read back as a given binary floating-point number, and the
text written from them. All arithmetic on the way is exact. -/
namespace AgentRelay.Decimal

/-- A positive finite number `mantissa · 2 ^ (exponent - 2)`, with the ends of the interval of reals
that round to it in the same unit, and whether the ends belong to it. -/
structure Rounding where
  value : Nat
  low : Nat
  high : Nat
  exponent : Int
  closed : Bool

/-- Splits the magnitude bits of a finite, nonzero double. The interval below a power of two is
half as wide as the one above it. -/
def Rounding.ofBits (magnitude : Nat) : Rounding :=
  let fraction := magnitude % 0x10000000000000
  let scale : Nat := magnitude / 0x10000000000000
  let m := if scale = 0 then fraction else 0x10000000000000 + fraction
  let q : Int := ((if scale = 0 then 1 else scale : Nat) : Int) - 1075
  { value := 4 * m
    low := if fraction = 0 ∧ 1 < scale then 4 * m - 1 else 4 * m - 2
    high := 4 * m + 2
    exponent := q - 2
    closed := m % 2 = 0 }

/-- `digits · 10 ^ exponent`. -/
structure Digits where
  digits : Nat
  exponent : Int
deriving Repr, DecidableEq

/-- Numerator and denominator of `n · 2 ^ e / 10 ^ k`. -/
def scaled (n : Nat) (e k : Int) : Nat × Nat :=
  (n * Nat.pow 2 e.toNat * Nat.pow 10 (-k).toNat,
    Nat.pow 2 (-e).toNat * Nat.pow 10 k.toNat)

/-- The largest `k` from `top` downwards with `10 ^ k ≤ value`. -/
def Rounding.magnitude (r : Rounding) : Nat → Int → Int
  | 0, top => top
  | steps + 1, top =>
    let (n, d) := scaled r.value r.exponent top
    if d ≤ n then top else r.magnitude steps (top - 1)

/-- Whether `digits · 10 ^ k` rounds to the number. -/
def Rounding.reads (r : Rounding) (digits : Nat) (k : Int) : Bool :=
  let (low, d) := scaled r.low r.exponent k
  let (high, _) := scaled r.high r.exponent k
  if r.closed then low ≤ digits * d && digits * d ≤ high else low < digits * d && digits * d < high

/-- The point of the grid `10 ^ k` that reads back and is nearest to the number, an even one on a
tie. -/
def Rounding.onGrid (r : Rounding) (k : Int) : Option Nat :=
  let (n, d) := scaled r.value r.exponent k
  let below := n / d
  let above := below + 1
  match r.reads below k, r.reads above k with
  | false, false => none
  | true, false => some below
  | false, true => some above
  | true, true =>
    let gap := 2 * (n - below * d)
    if gap < d ∨ (gap = d ∧ below % 2 = 0) then some below else some above

/-- Tries ever finer grids; seventeen digits are always enough. -/
def Rounding.search (r : Rounding) (top : Int) : Nat → Nat → Digits
  | 0, tried => ⟨(scaled r.value r.exponent (top - tried)).1, top - tried⟩
  | steps + 1, tried =>
    match r.onGrid (top - tried) with
    | some digits => ⟨digits, top - tried⟩
    | none => r.search top steps (tried + 1)

/-- Moves trailing zeros of the digits into the exponent. -/
def Digits.strip : Nat → Digits → Digits
  | 0, d => d
  | steps + 1, d =>
    if d.digits ≠ 0 ∧ d.digits % 10 = 0 then Digits.strip steps ⟨d.digits / 10, d.exponent + 1⟩
    else d

def shortest (magnitude : Nat) : Digits :=
  let r := Rounding.ofBits magnitude
  (r.search (r.magnitude 640 309) 17 0).strip 20

/-- Positional from `1e-5` up to sixteen integer digits and always with a fraction, otherwise one
digit before the point and a signed exponent. -/
def Digits.write (d : Digits) : List Char :=
  let ds := Nat.toDigits 10 d.digits
  let point := (ds.length : Int) + d.exponent
  if 0 < point ∧ point ≤ 16 then
    if 0 ≤ d.exponent then ds ++ List.replicate d.exponent.toNat '0' ++ ['.', '0']
    else ds.take point.toNat ++ '.' :: ds.drop point.toNat
  else if -5 < point ∧ point ≤ 0 then
    '0' :: '.' :: List.replicate (-point).toNat '0' ++ ds
  else
    let sign := if 0 < point then '+' else '-'
    let fraction := if ds.length ≤ 1 then [] else '.' :: ds.drop 1
    ds.take 1 ++ fraction ++ 'e' :: sign :: Nat.toDigits 10 (point - 1).natAbs

/-- The text of a finite double. -/
def floatChars (x : Float) : List Char :=
  let bits := x.toBits.toNat
  let magnitude := bits % 0x8000000000000000
  let sign := if bits < 0x8000000000000000 then [] else ['-']
  sign ++ if magnitude = 0 then ['0', '.', '0'] else (shortest magnitude).write

end AgentRelay.Decimal
