import AgentRelay.Certificate
import AgentRelay.Credentials.Fault

/-! The texts with which the server makes itself known to agents and recognizes them: its
certificate and key, and the certificate of the authority that agents are signed by. -/
namespace AgentRelay

structure Credentials where
  certificate : String
  key : String
  authority : String
deriving DecidableEq

namespace Credentials

/-- The credentials in diagnostics, which show nothing of them. -/
def describe (_ : Credentials) : String :=
  "ClientMtlsConfig \x7b client_cert_pem: \"<pem>\", client_key_pem: \"<redacted>\", " ++
    "ca_cert_pem: \"<pem>\" \x7d"

def isBlankText (s : String) : Bool := s.toList.all Text.isBlank

/-- Checks that the credentials can be used at a time. -/
def validate (c : Credentials) (now : Int) : Except Fault Unit := do
  if isBlankText c.authority ∨ isBlankText c.certificate then throw .missingCertificate
  let _ ← (Certificate.ofText c.authority).mapError fun f => .certificate ("root CA: " ++ f.message)
  let own ← (Certificate.ofText c.certificate).mapError fun f =>
    .certificate ("identity: " ++ f.message)
  if own.isExpired now ∨ own.isNotYetValid now then
    throw (.notValid own.commonName own.notAfter)
  (Certificate.checkPrivateKey c.key).mapError fun f => .key f.message

/-- What a file holds, if there is one. -/
abbrev Files := String → Option (List UInt8)

def readText (files : Files) (path : String) : Except Fault String :=
  match files path with
  | none => .error (.unreadable path "No such file or directory (os error 2)")
  | some bytes =>
    match Text.ofUtf8? bytes with
    | some s => .ok s
    | none => .error (.unreadable path "stream did not contain valid UTF-8")

/-- Reads the certificate, the key and the authority, in this order. -/
def ofFiles (files : Files) (certificate key authority : String) : Except Fault Credentials := do
  return ⟨← readText files certificate, ← readText files key, ← readText files authority⟩

end Credentials

end AgentRelay
