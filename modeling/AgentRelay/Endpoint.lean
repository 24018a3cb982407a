import AgentRelay.Text.Unsigned

/-! Endpoints written as `host:port`. A host that contains a colon is put between brackets, so that
the last colon always stands before the port. -/
namespace AgentRelay.Endpoint

/-- The host as it stands before the port: with brackets where it contains a colon and does not
open one itself. -/
def bracketed (host : List Char) : List Char :=
  if host.contains ':' ∧ host.head? ≠ some '[' then '[' :: host ++ [']'] else host

def joinChars (host : List Char) (port : UInt16) : List Char :=
  bracketed host ++ ':' :: Nat.toDigits 10 port.toNat

/-- `host:port`. -/
def join (host : String) (port : UInt16) : String :=
  String.ofList (joinChars host.toList port)

/-- `http://host:port/`. -/
def url (host : String) (port : UInt16) : String :=
  "http://" ++ join host port ++ "/"

/-- What keeps a text from being an endpoint. -/
inductive Fault where
  | missingPort
  | invalidPort
  | expectedHostPort
deriving DecidableEq, Repr

def Fault.message : Fault → String
  | .missingPort => "missing port"
  | .invalidPort => "invalid port"
  | .expectedHostPort => "expected host:port"

/-- What stands before the first `]:`, and what follows it. -/
def splitBracket : List Char → Option (List Char × List Char)
  | [] => none
  | ']' :: ':' :: rest => some ([], rest)
  | c :: rest => (splitBracket rest).map fun (host, port) => (c :: host, port)

def isPort (port : List Char) : Bool := (Text.unsigned? 65535 port).isSome

/-- The host of an endpoint without its brackets. The port behind a bracketed host is not read. -/
def hostChars : List Char → Except Fault (List Char)
  | '[' :: rest =>
    match splitBracket rest with
    | some (host, _) => .ok host
    | none => .error .missingPort
  | address =>
    let host := address.takeWhile (· ≠ ':')
    match address.dropWhile (· ≠ ':') with
    | [] => .error .expectedHostPort
    | _ :: port =>
      if host = [] ∨ port.contains ':' then .error .expectedHostPort
      else if isPort port then .ok host
      else .error .invalidPort

def host (address : String) : Except Fault String :=
  (hostChars address.toList).map String.ofList

end AgentRelay.Endpoint
