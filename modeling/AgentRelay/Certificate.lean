import AgentRelay.Certificate.Der
import AgentRelay.Certificate.Time
import AgentRelay.Pem

/-! Certificates: the common name of the subject and the time in which they are valid. -/
namespace AgentRelay

structure Certificate where
  notBefore : Int
  notAfter : Int
  commonName : String
deriving DecidableEq, Repr

namespace Certificate

/-- From its end on a certificate has expired. -/
def isExpired (c : Certificate) (now : Int) : Bool := c.notAfter ≤ now

def isNotYetValid (c : Certificate) (now : Int) : Bool := now < c.notBefore

/-! ### The parts of a certificate -/

/-- Whether bytes hold an integer from zero to the largest of 32 bits, in its shortest form. -/
def isShortUnsigned : Bytes → Bool
  | [] => false
  | [b] => b.toNat < 128
  | first :: second :: rest =>
    first.toNat < 128 && !(first.toNat = 0 && second.toNat < 128) &&
      bigEndian (first :: second :: rest) < 0x100000000

/-- The version is optional and marked with the context tag zero. -/
def skipVersion (bytes : Bytes) : Except Failure Bytes := do
  if bytes = [] then return bytes
  let (element, rest) ← readElement bytes
  if element.header.tag ≠ 0 then return bytes
  if element.header.tagClass ≠ 2 then
    throw (.error (.unexpectedClass element.header.tagClass))
  let (version, _) ← expect 2 .invalidVersion element.content
  if version.header.constructed || !isShortUnsigned version.content then
    throw (.error .invalidVersion)
  return rest

/-- The serial number may also have no length and end with an empty element. -/
def skipSerial (bytes : Bytes) : Except Failure Bytes :=
  match skipElement bytes with
  | some (header, rest) => if header.tag = 2 then .ok rest else .error (.error .invalidSerial)
  | none => .error (.error .invalidSerial)

/-- The identifier of an object. It is any element that does not consist of others. -/
def readIdentifier (bytes : Bytes) : Except Failure (Bytes × Bytes) := do
  let (element, rest) ← readElement bytes
  if element.header.constructed then throw (.error .invalidAlgorithm)
  return (element.content, rest)

/-- A sequence that starts with the name of an algorithm; one more element, the parameters, may
follow it. -/
def skipAlgorithm (bytes : Bytes) : Except Failure Bytes := do
  let (element, rest) ← readElement bytes
  if element.header.tag ≠ sequenceTag then
    throw (.error (.unexpectedTag sequenceTag element.header.tag))
  let (_, parameters) ←
    (readIdentifier element.content).mapError (Failure.withCause .invalidAlgorithm)
  if parameters ≠ [] then
    let _ ← readElement parameters
  return rest

/-- The object identifier of common names. -/
def commonNameId : Bytes := [0x55, 0x04, 0x03]

/-- Type and value of an attribute of a name. -/
def readAttribute (bytes : Bytes) : Except Failure ((Bytes × Element) × Bytes) := do
  let (content, rest) ← container sequenceTag bytes
  let (type, content) ← readIdentifier content
  let (value, _) ← readElement content
  return ((type, value), rest)

/-- Reads as long as it succeeds. An element takes at least one byte, so `steps` above the number of
bytes are enough. -/
def readMany {α : Type} (read : Bytes → Except Failure (α × Bytes)) :
    (steps : Nat) → Bytes → List α
  | 0, _ => []
  | steps + 1, bytes =>
    match read bytes with
    | .ok (a, rest) => a :: readMany read steps rest
    | .error _ => []

def readAttributes (bytes : Bytes) : Except Failure (List (Bytes × Element) × Bytes) := do
  let (content, rest) ← container setTag bytes
  match readMany readAttribute content.length content with
  | [] => throw (.error .endOfInput)
  | attributes => return (attributes, rest)

/-- The attributes of a name; it ends where no more can be read. -/
def readName (bytes : Bytes) : Except Failure (List (Bytes × Element) × Bytes) := do
  let (content, rest) ← container sequenceTag bytes
  return ((readMany readAttributes content.length content).flatten, rest)

/-- The text of a value in one of the kinds of strings that are texts of bytes. -/
def valueText? (value : Element) : Option String :=
  if value.header.tag ∈ [12, 18, 19, 22] then Text.ofUtf8? value.content else none

/-- The first common name, and nothing where there is none or it cannot be read. -/
def commonNameOf (attributes : List (Bytes × Element)) : String :=
  match attributes.find? (·.1 = commonNameId) with
  | some (_, value) => (valueText? value).getD ""
  | none => ""

def readTime (bytes : Bytes) : Except Failure (Int × Bytes) :=
  match readElement bytes with
  | .error _ => .error (.error .invalidDate)
  | .ok (element, rest) =>
    let time := match element.header.tag with
      | 23 => shortTime? element.content
      | 24 => longTime? element.content
      | _ => none
    match time with
    | some t => .ok (t, rest)
    | none => .error (.error .invalidDate)

def readValidity (bytes : Bytes) : Except Failure ((Int × Int) × Bytes) := do
  let (content, rest) ← container sequenceTag bytes
  let (notBefore, content) ← readTime content
  let (notAfter, _) ← readTime content
  return ((notBefore, notAfter), rest)

/-- Whether bytes hold bits: the first says how many bits of the last are not used, and those are
zero. -/
def isBits : Bytes → Bool
  | [] => false
  | unused :: bits =>
    match bits.getLast? with
    | none => unused = 0
    | some last => unused ≤ 8 && last.toNat % Nat.pow 2 unused.toNat = 0

def skipBits (tag : Nat) (cause : Cause) (bytes : Bytes) : Except Failure Bytes := do
  let (element, rest) ← expect tag cause bytes
  if element.header.constructed || !isBits element.content then throw (.error cause)
  return rest

def skipPublicKey (bytes : Bytes) : Except Failure Bytes := do
  let (content, rest) ← container sequenceTag bytes
  let _ ← skipBits bitsTag .invalidPublicKey (← skipAlgorithm content)
  return rest

/-- Bits that may be left out; an element with their tag has to be of the context class and hold
bits. -/
def skipUniqueId (tag : Nat) (cause : Cause) (bytes : Bytes) : Except Failure Bytes :=
  match readHeader bytes with
  | .error _ => .ok bytes
  | .ok (header, _) =>
    if header.tag = tag then
      if header.tagClass = 2 then skipBits tag cause bytes else .error (.error cause)
    else .ok bytes

/-- A mark of one byte that tells whether an extension is critical. It may be left out. -/
def skipCritical (bytes : Bytes) : Bytes :=
  match readHeader bytes with
  | .error _ => bytes
  | .ok (header, rest) => if header.tag = 1 ∧ header.length = 1 then rest.drop 1 else bytes

/-- Name, criticality and value of an extension. -/
def readExtension (bytes : Bytes) : Except Failure (Unit × Bytes) := do
  let (content, rest) ← container sequenceTag bytes
  let (_, content) ← readIdentifier content
  let (value, _) ← expect 4 .invalidExtensions (skipCritical content)
  if value.header.constructed then throw (.error .invalidExtensions)
  return ((), rest)

/-- The length of what a list of extensions does not take up. -/
def unreadExtensions : (steps : Nat) → Bytes → Nat
  | 0, bytes => bytes.length
  | steps + 1, bytes =>
    match readExtension bytes with
    | .ok (_, rest) => unreadExtensions steps rest
    | .error _ => bytes.length

def checkExtensions (bytes : Bytes) : Except Failure Unit := do
  if bytes = [] then return
  match readHeader bytes with
  | .error _ => throw (.error .invalidExtensions)
  | .ok (header, rest) =>
    if header.tag ≠ 3 then throw (.error .invalidExtensions)
    let (content, rest) ← container sequenceTag rest
    if unreadExtensions content.length content ≠ 0 ∨ rest ≠ [] then
      throw (.error .endOfInput)

/-- The signed part. -/
def readSigned (bytes : Bytes) : Except Failure Certificate := do
  let bytes ← skipVersion bytes
  let bytes ← skipSerial bytes
  let bytes ← skipAlgorithm bytes
  let (_, bytes) ← readName bytes
  let ((notBefore, notAfter), bytes) ← readValidity bytes
  let (subject, bytes) ← readName bytes
  let bytes ← skipPublicKey bytes
  let bytes ← skipUniqueId 1 .invalidIssuerId bytes
  let bytes ← skipUniqueId 2 .invalidSubjectId bytes
  checkExtensions bytes
  return ⟨notBefore, notAfter, commonNameOf subject⟩

def read (bytes : Bytes) : Except Failure Certificate := do
  let (content, _) ← container sequenceTag bytes
  let (signed, rest) ← container sequenceTag content
  let certificate ← readSigned signed
  let rest ← skipAlgorithm rest
  let _ ← skipBits bitsTag .invalidSignature rest
  return certificate

/-! ### Certificates and keys as text -/

/-- What is wrong with a text that should hold a certificate or a key. -/
inductive Fault where
  | framing (fault : Pem.Fault)
  | certificate (failure : Failure)
  | unexpectedTag (expected found : String)
deriving DecidableEq, Repr

def Fault.message : Fault → String
  | .framing fault => "certificate parsing error: failed to parse PEM: " ++ fault.message
  | .certificate failure =>
    "certificate parsing error: failed to parse certificate: " ++ failure.message
  | .unexpectedTag expected found =>
    "unexpected PEM block: expected " ++ expected ++ ", found " ++ found

def tag : String := "CERTIFICATE"

def block (text : String) : Except Fault Pem.Block := (Pem.parse text).mapError .framing

def ofBytes (bytes : List UInt8) : Except Fault Certificate := (read bytes).mapError .certificate

/-- The certificate in the first block of a text. -/
def ofText (text : String) : Except Fault Certificate := do
  let b ← block text
  if b.tag ≠ tag then throw (.unexpectedTag tag b.tag)
  ofBytes b.contents

/-! ### Private keys -/

def keyTag : String := "PRIVATE KEY"

/-- Whether a tag is that of a private key in plain form. -/
def isPlainKeyTag (tag : String) : Bool :=
  keyTag.toList.isSuffixOf tag.toList && !"ENCRYPTED".toList.isPrefixOf tag.toList

/-- Checks that the first block of a text is a private key in plain form. -/
def checkPrivateKey (text : String) : Except Fault Unit := do
  let b ← block text
  if !isPlainKeyTag b.tag then throw (.unexpectedTag keyTag b.tag)

end Certificate

end AgentRelay
