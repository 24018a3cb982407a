import AgentRelay.Key.Curve
import AgentRelay.Key.Edwards
import AgentRelay.Key.Rsa

/-! Private keys as they are stored: on their own, or in a container that names their algorithm.
What matters of a key is the public key that belongs to it. -/
namespace AgentRelay.Key

open Certificate Certificate.Canonical

/-! ### Algorithms

Each is named by the content of a sequence. -/

def rsaName : Bytes :=
  [0x06, 0x09, 0x2A, 0x86, 0x48, 0x86, 0xF7, 0x0D, 0x01, 0x01, 0x01, 0x05, 0x00]

def p256Name : Bytes := [0x06, 0x08, 0x2A, 0x86, 0x48, 0xCE, 0x3D, 0x03, 0x01, 0x07]

def p384Name : Bytes := [0x06, 0x05, 0x2B, 0x81, 0x04, 0x00, 0x22]

/-- A key of an elliptic curve; the curve is a parameter of the algorithm. -/
def curveName (parameter : Bytes) : Bytes :=
  [0x06, 0x07, 0x2A, 0x86, 0x48, 0xCE, 0x3D, 0x02, 0x01] ++ parameter

def edwardsName : Bytes := [0x06, 0x03, 0x2B, 0x65, 0x70]

/-- What a certificate says about a public key. -/
def publicInfo (algorithm key : Bytes) : Bytes :=
  wrap .sequence algorithm ++ wrap .bits (0 :: key)

/-! ### Keys of elliptic curves -/

/-- The public key in the stored one, which is the one that belongs to the private key. A curve that
is named has to be the given one. -/
def curveKey? (curve : Curve) (name bytes : Bytes) : Option Bytes := do
  let (version, rest) ← natural? (← only? .sequence bytes)
  let (secret, rest) ← expect? .bytes rest
  let (named, rest) ← optional? (.marked 0) rest
  let stored ← wholeBits? (← only? .bits (← only? (.marked 1) rest))
  let key ← curve.publicKey? (bigEndian secret)
  if version = 1 ∧ secret.length = curve.size ∧ named.getD name = name ∧ stored = key then
    return publicInfo (curveName name) key
  else none

/-! ### Containers -/

/-- In the second version the public key follows the private one. -/
structure Container where
  algorithm : Bytes
  secret : Bytes
  publicKey : Option Bytes := none

/-- Attributes are passed over. -/
def Container.read? (bytes : Bytes) : Option Container := do
  let (version, rest) ← natural? (← only? .sequence bytes)
  let (algorithm, rest) ← expect? .sequence rest
  let (secret, rest) ← expect? .bytes rest
  let (_, rest) ← optional? (.marked 0) rest
  match version with
  | 0 => if rest = [] then return { algorithm, secret } else none
  | 1 =>
    let (wrapped, after) ← optional? (.marked 1) rest
    let bits ← match wrapped with
      | some bits => if after = [] then only? .bits bits else none
      | none => only? (.retagged 1) rest
    return { algorithm, secret, publicKey := some (← wholeBits? bits) }
  | _ => none

/-- The seed of the key is wrapped once more. -/
def Container.edwardsKey? (c : Container) : Option Bytes := do
  let seed ← only? .bytes c.secret
  let key := Edwards.publicKey seed
  if seed.length = 32 ∧ c.publicKey.getD key = key then return publicInfo edwardsName key
  else none

/-- Only keys of Ed25519 may be in a container of the second version. -/
def Container.publicInfo? (c : Container) : Option Bytes :=
  if c.algorithm = edwardsName then c.edwardsKey?
  else if c.publicKey.isSome then none
  else if c.algorithm = rsaName then
    (Rsa.read? c.secret).map fun key => publicInfo rsaName key.publicKey
  else if c.algorithm = curveName p256Name then curveKey? .p256 p256Name c.secret
  else if c.algorithm = curveName p384Name then curveKey? .p384 p384Name c.secret
  else none

/-! ### Entries -/

/-- The labels under which private keys are stored. -/
def labels : List String := ["RSA PRIVATE KEY", "PRIVATE KEY", "EC PRIVATE KEY"]

/-- What a certificate says about the public key of a stored private key, if that is a key in the
form that goes with the label. -/
def publicInfo? (label : String) (bytes : Bytes) : Option Bytes :=
  match label with
  | "RSA PRIVATE KEY" => (Rsa.read? bytes).map fun key => publicInfo rsaName key.publicKey
  | "EC PRIVATE KEY" => curveKey? .p256 p256Name bytes <|> curveKey? .p384 p384Name bytes
  | "PRIVATE KEY" => (Container.read? bytes).bind Container.publicInfo?
  | _ => none

end AgentRelay.Key
