import AgentRelay.Wire.Varint

/-! The key in front of every value: a field number and the layout of what follows. A value of an
unknown field is passed over by its layout alone. -/
namespace AgentRelay.Wire

namespace WireType

def number : WireType → Nat
  | .varint => 0
  | .sixtyFourBit => 1
  | .lengthDelimited => 2
  | .startGroup => 3
  | .endGroup => 4
  | .thirtyTwoBit => 5

def ofNumber? : Nat → Option WireType
  | 0 => some .varint
  | 1 => some .sixtyFourBit
  | 2 => some .lengthDelimited
  | 3 => some .startGroup
  | 4 => some .endGroup
  | 5 => some .thirtyTwoBit
  | _ => none

theorem ofNumber?_number (w : WireType) : ofNumber? w.number = some w := by
  cases w <;> rfl

end WireType

structure Key where
  field : Nat
  layout : WireType
deriving DecidableEq, Repr

def Key.write (k : Key) : Bytes := writeVarint (k.field * 8 + k.layout.number)

def readKey (bytes : Bytes) : Except Cause (Key × Bytes) := do
  let (n, rest) ← readVarint bytes
  if 0x100000000 ≤ n then throw (.invalidKey n)
  match WireType.ofNumber? (n % 8) with
  | none => throw (.invalidWireType (n % 8))
  | some layout =>
    if n / 8 = 0 then throw .zeroFieldNumber
    return (⟨n / 8, layout⟩, rest)

/-! ### Unknown fields -/

def drop (n : Nat) (bytes : Bytes) : Except Cause Bytes :=
  if n ≤ bytes.length then .ok (bytes.drop n) else .error .underflow

/-- Passes over fields up to the end of the group `number`. A field takes at least one byte, so
`steps` above the number of bytes are enough. -/
def skipGroup (skip : Key → Bytes → Except Cause Bytes) (number : Nat) :
    (steps : Nat) → Bytes → Except Cause Bytes
  | 0, _ => .error .invalidVarint
  | steps + 1, bytes => do
    let (key, bytes) ← readKey bytes
    if key.layout = .endGroup then
      if key.field = number then return bytes else throw .unexpectedEndGroup
    else skipGroup skip number steps (← skip key bytes)

/-- Passes over a value; groups may nest `depth` deep. -/
def skipField : (depth : Nat) → Key → Bytes → Except Cause Bytes
  | 0, _, _ => .error .tooDeep
  | depth + 1, key, bytes =>
    match key.layout with
    | .varint => (readVarint bytes).map (·.2)
    | .thirtyTwoBit => drop 4 bytes
    | .sixtyFourBit => drop 8 bytes
    | .lengthDelimited => do
      let (n, bytes) ← readVarint bytes
      drop n bytes
    | .startGroup => skipGroup (skipField depth) key.field (bytes.length + 1) bytes
    | .endGroup => .error .unexpectedEndGroup

end AgentRelay.Wire
