import AgentRelay.Text.Quoted

/-! The status with which a remote call fails. -/
namespace AgentRelay.Rpc

inductive Code where
  | ok
  | cancelled
  | unknown
  | invalidArgument
  | deadlineExceeded
  | notFound
  | alreadyExists
  | permissionDenied
  | resourceExhausted
  | failedPrecondition
  | aborted
  | outOfRange
  | unimplemented
  | internal
  | unavailable
  | dataLoss
  | unauthenticated
deriving DecidableEq, Repr

namespace Code

/-- All codes in the order of their numbers. -/
def all : List Code :=
  [.ok, .cancelled, .unknown, .invalidArgument, .deadlineExceeded, .notFound, .alreadyExists,
    .permissionDenied, .resourceExhausted, .failedPrecondition, .aborted, .outOfRange,
    .unimplemented, .internal, .unavailable, .dataLoss, .unauthenticated]

def number (c : Code) : Nat := c.ctorIdx

/-- A number outside the table means `unknown`. -/
def ofNumber (n : Int) : Code :=
  if n < 0 then .unknown else all[n.toNat]?.getD .unknown

def name : Code → String
  | .ok => "Ok"
  | .cancelled => "Cancelled"
  | .unknown => "Unknown"
  | .invalidArgument => "InvalidArgument"
  | .deadlineExceeded => "DeadlineExceeded"
  | .notFound => "NotFound"
  | .alreadyExists => "AlreadyExists"
  | .permissionDenied => "PermissionDenied"
  | .resourceExhausted => "ResourceExhausted"
  | .failedPrecondition => "FailedPrecondition"
  | .aborted => "Aborted"
  | .outOfRange => "OutOfRange"
  | .unimplemented => "Unimplemented"
  | .internal => "Internal"
  | .unavailable => "Unavailable"
  | .dataLoss => "DataLoss"
  | .unauthenticated => "Unauthenticated"

theorem ofNumber_number (c : Code) : ofNumber c.number = c := by
  cases c <;> rfl

end Code

structure Status where
  code : Code
  message : String
  details : List UInt8 := []
deriving DecidableEq, Repr

/-- One line for diagnostics; the details are a list of decimal bytes. -/
def Status.text (s : Status) : String :=
  "status: " ++ s.code.name ++ ", message: " ++ Text.quoted s.message ++ ", details: [" ++
    ", ".intercalate (s.details.map fun b => toString b.toNat) ++
    "], metadata: MetadataMap \x7b headers: \x7b\x7d \x7d"

end AgentRelay.Rpc
