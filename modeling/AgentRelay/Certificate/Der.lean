/-! Elements of the distinguished encoding rules: a tag, a length and that many bytes. -/
namespace AgentRelay.Certificate

/-- What is wrong with the bytes of a certificate. -/
inductive Cause where
  | endOfInput
  | unexpectedTag (expected actual : Nat)
  | unexpectedClass (actual : Nat)
  | indefiniteLength
  | invalidLength
  | invalidTag
  | invalidVersion
  | invalidSerial
  | invalidAlgorithm
  | invalidDate
  | invalidPublicKey
  | invalidIssuerId
  | invalidSubjectId
  | invalidExtensions
  | invalidSignature
deriving DecidableEq, Repr

/-- Reading needs more bytes, or fails for good. -/
inductive Failure where
  | incomplete (needed : Nat)
  | error (cause : Cause)
deriving DecidableEq, Repr

def className : Nat → String
  | 0 => "Universal"
  | 1 => "Application"
  | 2 => "ContextSpecific"
  | _ => "Private"

def Cause.message : Cause → String
  | .endOfInput => "NomError(Eof)"
  | .unexpectedTag expected actual =>
    "Der(UnexpectedTag \x7b expected: Some(Tag(" ++ toString expected ++ ")), actual: Tag(" ++
      toString actual ++ ") \x7d)"
  | .unexpectedClass actual =>
    "Der(UnexpectedClass \x7b expected: Some(ContextSpecific), actual: " ++ className actual ++
      " \x7d)"
  | .indefiniteLength => "Der(DerConstraintFailed(IndefiniteLength))"
  | .invalidLength => "Der(InvalidLength)"
  | .invalidTag => "Der(InvalidTag)"
  | .invalidVersion => "InvalidVersion"
  | .invalidSerial => "InvalidSerial"
  | .invalidAlgorithm => "InvalidAlgorithmIdentifier"
  | .invalidDate => "InvalidDate"
  | .invalidPublicKey => "InvalidSPKI"
  | .invalidIssuerId => "InvalidIssuerUID"
  | .invalidSubjectId => "InvalidSubjectUID"
  | .invalidExtensions => "InvalidExtensions"
  | .invalidSignature => "InvalidSignatureValue"

def Failure.message : Failure → String
  | .incomplete needed => "Parsing requires " ++ toString needed ++ " bytes/chars"
  | .error cause => "Parsing Error: " ++ cause.message

/-- Another cause for a failure that is final. -/
def Failure.withCause (cause : Cause) : Failure → Failure
  | .incomplete needed => .incomplete needed
  | .error _ => .error cause

abbrev Bytes := List UInt8

structure Header where
  tagClass : Nat
  constructed : Bool
  tag : Nat
  length : Nat
deriving DecidableEq, Repr

structure Element where
  header : Header
  content : Bytes
deriving DecidableEq, Repr

/-! ### Headers -/

/-- The tag that follows an identifier with all tag bits set, in groups of seven bits; at most five
of them. -/
def longTag : (left : Nat) → Nat → Bytes → Except Failure (Nat × Bytes)
  | _, _, [] => .error (.error .invalidTag)
  | 0, _, _ => .error (.error .invalidTag)
  | left + 1, n, b :: rest =>
    let n := (n * 128 + b.toNat % 128) % 0x100000000
    if b.toNat < 128 then .ok (n, rest) else longTag left n rest

def readTag (identifier : UInt8) (rest : Bytes) : Except Failure (Nat × Bytes) :=
  if identifier.toNat % 32 = 31 then longTag 5 0 rest else .ok (identifier.toNat % 32, rest)

/-- As many bytes as there should be. -/
def takeAll (n : Nat) (bytes : Bytes) : Except Failure (Bytes × Bytes) :=
  if n ≤ bytes.length then .ok (bytes.take n, bytes.drop n)
  else .error (.incomplete (n - bytes.length))

def bigEndian (bytes : Bytes) : Nat := bytes.foldl (fun n b => n * 256 + b.toNat) 0

/-- A length below 128, or the number of the bytes that hold it. -/
def readLength : Bytes → Except Failure (Nat × Bytes)
  | [] => .error (.incomplete 1)
  | b :: rest =>
    if b.toNat < 128 then .ok (b.toNat, rest)
    else if b.toNat = 128 then .error (.error .indefiniteLength)
    else if b.toNat = 255 then .error (.error .invalidLength)
    else do
      let (digits, rest) ← takeAll (b.toNat - 128) rest
      if 0x10000000000000000 ≤ bigEndian digits then throw (.error .invalidLength)
      return (bigEndian digits, rest)

def readHeader : Bytes → Except Failure (Header × Bytes)
  | [] => .error (.incomplete 1)
  | b :: rest => do
    let (tag, rest) ← readTag b rest
    let (length, rest) ← readLength rest
    return (⟨b.toNat / 64, b.toNat / 32 % 2 = 1, tag, length⟩, rest)

/-! ### Elements of unknown length -/

/-- A header in which the length may be left open, if the element consists of others. -/
def openHeader (bytes : Bytes) : Option (Header × Bool × Bytes) :=
  match bytes with
  | [] => none
  | b :: rest => do
    let (tag, rest) ← (readTag b rest).toOption
    let constructed : Bool := b.toNat / 32 % 2 = 1
    match rest with
    | 128 :: rest =>
      if constructed then return (⟨b.toNat / 64, constructed, tag, 0⟩, true, rest) else none
    | _ =>
      let (length, rest) ← (readLength rest).toOption
      return (⟨b.toNat / 64, constructed, tag, length⟩, false, rest)

/-- Passes over elements up to one that is empty and has the tag zero; `depth` bounds how deep
elements of unknown length may lie in one another. Each step takes at least two bytes, so `steps`
above their number are enough. -/
def skipToEnd : (steps depth : Nat) → Bytes → Option Bytes
  | 0, _, _ => none
  | _, 0, _ => none
  | steps + 1, depth + 1, bytes => do
    let (header, isOpen, rest) ← openHeader bytes
    if isOpen then
      let rest ← skipToEnd steps depth rest
      skipToEnd steps (depth + 1) rest
    else if header.length = 0 ∧ header.tag = 0 then return rest
    else if rest.length < header.length then none
    else skipToEnd steps (depth + 1) (rest.drop header.length)

/-- The header of an element, whose length may be left open, and what follows the element. -/
def skipElement (bytes : Bytes) : Option (Header × Bytes) := do
  let (header, isOpen, rest) ← openHeader bytes
  if isOpen then return (header, ← skipToEnd bytes.length 49 rest)
  else if rest.length < header.length then none
  else return (header, rest.drop header.length)

/-! ### Elements -/

def readElement (bytes : Bytes) : Except Failure (Element × Bytes) := do
  let (header, rest) ← readHeader bytes
  let (content, rest) ← takeAll header.length rest
  return (⟨header, content⟩, rest)

def sequenceTag : Nat := 16
def setTag : Nat := 17
def bitsTag : Nat := 3

/-- The content of an element that has to be complete; its tag is looked at afterwards. What follows
it is left over. -/
def container (tag : Nat) (bytes : Bytes) : Except Failure (Bytes × Bytes) := do
  let (header, rest) ← readHeader bytes
  if rest.length < header.length then throw (.error .endOfInput)
  if header.tag ≠ tag then throw (.error (.unexpectedTag tag header.tag))
  return (rest.take header.length, rest.drop header.length)

/-- An element with a given tag; any failure has the one cause. -/
def expect (tag : Nat) (cause : Cause) (bytes : Bytes) : Except Failure (Element × Bytes) :=
  match readElement bytes with
  | .ok (element, rest) =>
    if element.header.tag = tag then .ok (element, rest) else .error (.error cause)
  | .error _ => .error (.error cause)

end AgentRelay.Certificate
