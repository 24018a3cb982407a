/-! Bytes written in base 64: four symbols for three bytes, with padding at the end. Only the
canonical form is read: the padding completes the last four symbols, and bits that belong to no byte
are zero. -/
namespace AgentRelay.Text.Base64

/-- The offsets count from the start of the text. -/
inductive Fault where
  | invalidSymbol (symbol : UInt8) (offset : Nat)
  | invalidLastSymbol (symbol : UInt8) (offset : Nat)
  | invalidLength (length : Nat)
  | invalidPadding
deriving DecidableEq, Repr

def Fault.message : Fault → String
  | .invalidSymbol symbol offset =>
    "Invalid symbol " ++ toString symbol.toNat ++ ", offset " ++ toString offset ++ "."
  | .invalidLastSymbol symbol offset =>
    "Invalid last symbol " ++ toString symbol.toNat ++ ", offset " ++ toString offset ++ "."
  | .invalidLength length => "Invalid input length: " ++ toString length
  | .invalidPadding => "Invalid padding"

/-- The equals sign. -/
def pad : UInt8 := 61

def value? (symbol : UInt8) : Option Nat :=
  let n := symbol.toNat
  if 65 ≤ n ∧ n ≤ 90 then some (n - 65)
  else if 97 ≤ n ∧ n ≤ 122 then some (n - 97 + 26)
  else if 48 ≤ n ∧ n ≤ 57 then some (n - 48 + 52)
  else if n = 43 then some 62
  else if n = 47 then some 63
  else none

def symbolValue (offset : Nat) (symbol : UInt8) : Except Fault Nat :=
  match value? symbol with
  | some v => .ok v
  | none => .error (.invalidSymbol symbol offset)

/-- The number that symbols write, six bits each. -/
def symbolsValue (offset : Nat) : Nat → List UInt8 → Except Fault Nat
  | n, [] => .ok n
  | n, s :: rest => do symbolsValue (offset + 1) (n * 64 + (← symbolValue offset s)) rest

/-- The lowest `count` bytes of a number, the highest first. -/
def bytesOf (n : Nat) : (count : Nat) → List UInt8
  | 0 => []
  | count + 1 => UInt8.ofNat (n / Nat.pow 256 count) :: bytesOf n count

/-- Reads the last symbols, at most four of them, with their padding. -/
def decodeLast (offset : Nat) (last : List UInt8) : Except Fault (List UInt8) := do
  let symbols := last.takeWhile (· ≠ pad)
  let padding := last.dropWhile (· ≠ pad)
  let n ← symbolsValue offset 0 symbols
  let count := symbols.length
  if padding ≠ [] ∧ (count < 2 ∨ padding.any (· ≠ pad)) then
    throw (.invalidSymbol pad (offset + count))
  if last = [] then return []
  if count < 2 then throw (.invalidLength (offset + count))
  if (count + padding.length) % 4 ≠ 0 then throw .invalidPadding
  let unused := count * 6 % 8
  if n % Nat.pow 2 unused ≠ 0 then
    throw (.invalidLastSymbol (symbols.getLastD 0) (offset + count - 1))
  return bytesOf (n / Nat.pow 2 unused) (count * 6 / 8)

/-- Reads four symbols at a time; those at the end may be padded. -/
def decodeFrom (offset : Nat) : List UInt8 → Except Fault (List UInt8)
  | a :: b :: c :: d :: e :: rest => do
    let n ← symbolsValue offset 0 [a, b, c, d]
    return bytesOf n 3 ++ (← decodeFrom (offset + 4) (e :: rest))
  | last => decodeLast offset last

/-- A single symbol at the end that could not be completed is reported first. -/
def decode (text : List UInt8) : Except Fault (List UInt8) :=
  match text.getLast? with
  | some s =>
    if text.length % 4 = 1 ∧ s ≠ pad ∧ value? s = none then
      .error (.invalidSymbol s (text.length - 1))
    else decodeFrom 0 text
  | none => .ok []

/-! ### Base 64 in lines

A less strict form: blanks are passed over, the padding may be left out as a whole, and bits that
belong to no byte are not looked at. -/

/-- Spaces, tabs and line ends. -/
def isSpacing (b : UInt8) : Bool := (9 ≤ b.toNat && b.toNat ≤ 13) || b = 32

/-- The bytes that values of six bits write. -/
def bytesOfValues : List Nat → List UInt8
  | a :: b :: c :: d :: rest => bytesOf (((a * 64 + b) * 64 + c) * 64 + d) 3 ++ bytesOfValues rest
  | [a, b, c] => bytesOf (((a * 64 + b) * 64 + c) / 4) 2
  | [a, b] => bytesOf ((a * 64 + b) / 16) 1
  | _ => []

def decodeLines? (text : List UInt8) : Option (List UInt8) := do
  let text := text.filter (!isSpacing ·)
  let padding := text.dropWhile (· ≠ pad)
  let values ← (text.takeWhile (· ≠ pad)).mapM value?
  let missing := (4 - values.length % 4) % 4
  if padding.any (· ≠ pad) ∨ missing = 3 ∨ (padding ≠ [] ∧ padding.length ≠ missing) then none
  else return bytesOfValues values

end AgentRelay.Text.Base64
