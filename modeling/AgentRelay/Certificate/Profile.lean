import AgentRelay.Certificate.Canonical

/-! Certificates as they are accepted for a handshake: in canonical form and of the third version,
with the extensions that matter there at most once. An authority may also be of the first
version. -/
namespace AgentRelay.Certificate.Profile

open Canonical

/-- The signed part, and the algorithm of the signature. -/
def signed? (bytes : Bytes) : Option (Bytes × Bytes) := do
  let (signed, rest) ← expect? .sequence (← only? .sequence bytes)
  let (algorithm, rest) ← expect? .sequence rest
  let _ ← wholeBits? (← only? .bits rest)
  return (signed, algorithm)

/-- What follows the mark of the third version. -/
def thirdVersion? (signed : Bytes) : Option Bytes := do
  let (version, rest) ← expect? (.marked 0) signed
  if version = [2, 1, 2] then return rest else none

/-! ### Extensions -/

/-- The extensions of the standard that are understood: use of the key, other names, constraints,
names that are allowed, lists of revoked certificates, and extended use of the key. -/
def understood : List Nat := [15, 17, 19, 30, 31, 37]

/-- The use of the key is not looked into; the others hold one sequence. -/
def isValue (extension : Nat) (value : Bytes) : Bool :=
  extension = 15 || (only? .sequence value).isSome

def critical? (bytes : Bytes) : Option (Bool × Bytes) := do
  match ← optional? .boolean bytes with
  | (none, rest) => return (false, rest)
  | (some [0], rest) => return (false, rest)
  | (some [0xFF], rest) => return (true, rest)
  | _ => none

/-- The number of an extension that is understood; `some none` is one that may be passed over. -/
def extension? (content : Bytes) : Option (Option Nat) := do
  let (id, rest) ← expect? .identifier content
  let (critical, rest) ← critical? rest
  let value ← only? .bytes rest
  let passOver : Option (Option Nat) := if critical then none else some none
  match id with
  | [0x55, 0x1D, n] =>
    if understood.contains n.toNat then
      if isValue n.toNat value then return some n.toNat else none
    else passOver
  | _ => passOver

/-- Extensions may be left out, and there may be none of them in their place. -/
def areExtensions (bytes : Bytes) : Bool :=
  if bytes = [] then true
  else
    let numbers? : Option (List (Option Nat)) := do
      let list ← only? .sequence (← only? (.marked 3) bytes)
      (← contents? .sequence list.length list).mapM extension?
    match numbers? with
    | none => false
    | some numbers => (numbers.filterMap id).Nodup

/-! ### The signed part -/

/-- Issuer, validity and subject are sequences. The content of the public key comes with what
follows it. -/
def afterAlgorithm? (bytes : Bytes) : Option (Bytes × Bytes) := do
  let (_, rest) ← expect? .sequence bytes
  let (_, rest) ← expect? .sequence rest
  let (_, rest) ← expect? .sequence rest
  expect? .sequence rest

/-- The public key of a certificate of the third version. The signed part names the algorithm of the
signature once more. -/
def keyAfterVersion? (algorithm bytes : Bytes) : Option Bytes := do
  let (_, rest) ← expect? .integer bytes
  let (named, rest) ← expect? .sequence rest
  let (key, rest) ← afterAlgorithm? rest
  if named = algorithm ∧ areExtensions rest then return key else none

/-- The content of the public key of a certificate. -/
def publicKey? (bytes : Bytes) : Option Bytes := do
  let (signed, algorithm) ← signed? bytes
  keyAfterVersion? algorithm (← thirdVersion? signed)

/-- A certificate of the first version has neither a mark of it nor extensions. -/
def isFirstVersion (signed : Bytes) : Bool :=
  let rest? : Option Bytes := do
    let (_, rest) ← expect? .integer signed
    let (_, rest) ← expect? .sequence rest
    let (_, rest) ← afterAlgorithm? rest
    return rest
  rest? = some []

/-- Whether agents can be recognized by their signatures of this authority. -/
def isAuthority (bytes : Bytes) : Bool :=
  match signed? bytes with
  | none => false
  | some (signed, algorithm) =>
    match thirdVersion? signed with
    | some rest => (keyAfterVersion? algorithm rest).isSome
    | none => isFirstVersion signed

end AgentRelay.Certificate.Profile
