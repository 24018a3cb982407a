import AgentRelay.Certificate.Der

/-! Elements in canonical form: a tag of one byte, and a length in the fewest bytes, which are three
at most. -/
namespace AgentRelay.Certificate.Canonical

/-- The kinds of elements. A marked element is known by its number alone; it holds another one, or
it is that one under another tag. -/
inductive Kind where
  | boolean
  | integer
  | bits
  | bytes
  | identifier
  | sequence
  | marked (n : Nat)
  | retagged (n : Nat)
deriving DecidableEq, Repr

/-- The tag of a kind, with the bits that tell its class and form. -/
def Kind.tag : Kind → Nat
  | .boolean => 0x01
  | .integer => 0x02
  | .bits => 0x03
  | .bytes => 0x04
  | .identifier => 0x06
  | .sequence => 0x30
  | .marked n => 0xA0 + n
  | .retagged n => 0x80 + n

/-! ### Reading -/

def length? : Bytes → Option (Nat × Bytes)
  | 0x81 :: a :: rest => if 0x80 ≤ a.toNat then some (a.toNat, rest) else none
  | 0x82 :: a :: b :: rest =>
    let n := a.toNat * 256 + b.toNat
    if 0x100 ≤ n ∧ n < 0xFFFF then some (n, rest) else none
  | a :: rest => if a.toNat < 0x80 then some (a.toNat, rest) else none
  | [] => none

/-- The tag of the first element, its content, and what follows it. -/
def element? : Bytes → Option (Nat × Bytes × Bytes)
  | [] => none
  | tag :: rest => do
    let (length, rest) ← length? rest
    if tag.toNat % 32 = 31 ∨ rest.length < length then none
    else return (tag.toNat, rest.take length, rest.drop length)

/-- The content of an element of the given kind, and what follows it. -/
def expect? (kind : Kind) (bytes : Bytes) : Option (Bytes × Bytes) := do
  let (found, content, rest) ← element? bytes
  if found = kind.tag then return (content, rest) else none

/-- The content of an element of the given kind that nothing follows. -/
def only? (kind : Kind) (bytes : Bytes) : Option Bytes :=
  match expect? kind bytes with
  | some (content, []) => some content
  | _ => none

/-- A part that may be left out. -/
def optional? (kind : Kind) (bytes : Bytes) : Option (Option Bytes × Bytes) :=
  if bytes.head?.map UInt8.toNat = some kind.tag then
    (expect? kind bytes).map fun (content, rest) => (some content, rest)
  else some (none, bytes)

/-- A number that is not negative, in its fewest bytes. -/
def natural? (bytes : Bytes) : Option (Nat × Bytes) := do
  let (content, rest) ← expect? .integer bytes
  match content with
  | [] => none
  | [a] => if a.toNat < 0x80 then return (a.toNat, rest) else none
  | a :: b :: _ =>
    if a.toNat < 0x80 ∧ (a.toNat ≠ 0 ∨ 0x80 ≤ b.toNat) then return (bigEndian content, rest)
    else none

/-- Bits that fill their bytes. -/
def wholeBits? : Bytes → Option Bytes
  | 0 :: bytes => some bytes
  | _ => none

/-- The contents of elements of the given kind, up to the end. An element takes at least two bytes,
so `steps` above their number are enough. -/
def contents? (kind : Kind) : (steps : Nat) → Bytes → Option (List Bytes)
  | _, [] => some []
  | 0, _ => none
  | steps + 1, bytes => do
    let (content, rest) ← expect? kind bytes
    return content :: (← contents? kind steps rest)

/-! ### Writing -/

def lengthBytes (n : Nat) : Bytes :=
  if n < 0x80 then [UInt8.ofNat n]
  else if n < 0x100 then [0x81, UInt8.ofNat n]
  else [0x82, UInt8.ofNat (n / 256), UInt8.ofNat n]

def wrap (kind : Kind) (content : Bytes) : Bytes :=
  UInt8.ofNat kind.tag :: (lengthBytes content.length ++ content)

/-- The bytes of a number, the highest first. -/
def naturalBytes (n : Nat) : Bytes :=
  if n < 256 then [UInt8.ofNat n] else naturalBytes (n / 256) ++ [UInt8.ofNat n]
termination_by n
decreasing_by omega

/-- A number; a zero byte keeps it from being negative. -/
def natural (n : Nat) : Bytes :=
  let bytes := naturalBytes n
  wrap .integer (if (bytes.headD 0).toNat < 0x80 then bytes else 0 :: bytes)

end AgentRelay.Certificate.Canonical
