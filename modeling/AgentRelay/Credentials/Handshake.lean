import AgentRelay.Certificate.Profile
import AgentRelay.Credentials
import AgentRelay.Key.Container
import AgentRelay.Pem.Entry

/-! What a handshake with an agent needs of the credentials: authorities to recognize the agent by,
and a private key that belongs to the server's own certificate. -/
namespace AgentRelay.Credentials

/-- The certificates in a text, which may hold other entries too. -/
def certificates? (text : String) : Option (List Certificate.Bytes) :=
  let read := Pem.entriesOf text
  if read.complete then
    some ((read.entries.filter (·.label = Certificate.tag)).map Pem.Entry.contents)
  else none

/-- What is said about the public key of the first private key in a text. -/
def keyInfo? (text : String) : Option Certificate.Bytes := do
  let entry ← (Pem.entriesOf text).entries.find? fun e => Key.labels.contains e.label
  Key.publicInfo? entry.label entry.contents

/-- There need not be an authority, but all that are there have to be usable. The server's own
certificate comes first in its text; those that follow it lead to the authority of the agents. -/
def supportsHandshake (c : Credentials) : Bool :=
  match certificates? c.authority, certificates? c.certificate, keyInfo? c.key with
  | some authorities, some (own :: _), some info =>
    authorities.all Certificate.Profile.isAuthority &&
      Certificate.Profile.publicKey? own = some info
  | _, _, _ => false

end AgentRelay.Credentials
