/-! What can be wrong with the certificates and the key for talking to an agent. -/
namespace AgentRelay.Credentials

inductive Fault where
  | missingCertificate
  | certificate (message : String)
  | notValid (commonName : String) (notAfter : Int)
  | key (message : String)
  | tls (message : String)
  | unreadable (path reason : String)
deriving DecidableEq, Repr

def Fault.message : Fault → String
  | .missingCertificate => "missing certificate"
  | .certificate message => "certificate parsing error: " ++ message
  | .notValid commonName notAfter =>
    "certificate " ++ commonName ++ " is not valid now (valid until " ++ toString notAfter ++ ")"
  | .key message => "key parsing error: " ++ message
  | .tls message => "TLS configuration error: " ++ message
  | .unreadable path reason => "failed to read " ++ path ++ ": " ++ reason

/-- The messages from the fault to its root. -/
def Fault.messages (f : Fault) : List String :=
  f.message :: match f with
    | .unreadable _ reason => [reason]
    | _ => []

end AgentRelay.Credentials
