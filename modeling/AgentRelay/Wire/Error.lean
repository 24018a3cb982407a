/-! Why bytes are not a message. -/
namespace AgentRelay.Wire

/-- How the value behind a key is laid out. -/
inductive WireType where
  | varint
  | sixtyFourBit
  | lengthDelimited
  | startGroup
  | endGroup
  | thirtyTwoBit
deriving DecidableEq, Repr

def WireType.name : WireType → String
  | .varint => "Varint"
  | .sixtyFourBit => "SixtyFourBit"
  | .lengthDelimited => "LengthDelimited"
  | .startGroup => "StartGroup"
  | .endGroup => "EndGroup"
  | .thirtyTwoBit => "ThirtyTwoBit"

inductive Cause where
  | invalidVarint
  | invalidKey (value : Nat)
  | invalidWireType (value : Nat)
  | zeroFieldNumber
  | unexpectedWireType (actual expected : WireType)
  | underflow
  | lengthExceeded
  | notUtf8
  | tooDeep
  | unexpectedEndGroup
deriving DecidableEq, Repr

/-- The path leads from the innermost field outwards; a step is a message and its field. -/
structure Error where
  path : List (String × String) := []
  cause : Cause
deriving DecidableEq, Repr

def Cause.message : Cause → String
  | .invalidVarint => "invalid varint"
  | .invalidKey value => "invalid key value: " ++ toString value
  | .invalidWireType value => "invalid wire type value: " ++ toString value
  | .zeroFieldNumber => "invalid tag value: 0"
  | .unexpectedWireType actual expected =>
    "invalid wire type: " ++ actual.name ++ " (expected " ++ expected.name ++ ")"
  | .underflow => "buffer underflow"
  | .lengthExceeded => "delimited length exceeded"
  | .notUtf8 => "invalid string value: data is not UTF-8 encoded"
  | .tooDeep => "recursion limit reached"
  | .unexpectedEndGroup => "unexpected end group tag"

def Error.message (e : Error) : String :=
  "failed to decode Protobuf message: " ++
    String.join (e.path.map fun (message, field) => message ++ "." ++ field ++ ": ") ++
    e.cause.message

/-- The same error seen from the message around it. -/
def Error.inside (message field : String) (e : Error) : Error :=
  { e with path := e.path ++ [(message, field)] }

end AgentRelay.Wire
