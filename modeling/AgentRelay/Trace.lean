import AgentRelay.Text.Hex

/-! Trace contexts, and how they travel with a call as metadata. -/
namespace AgentRelay

namespace Trace

/-- Where a call stands in a trace. The ids have 128 and 64 bits. -/
structure Context where
  traceId : Nat
  spanId : Nat
  flags : Nat
  state : List (String × String) := []
deriving DecidableEq, Repr

/-- A context without a trace or a span says nothing. -/
def Context.isValid (c : Context) : Bool := c.traceId ≠ 0 && c.spanId ≠ 0

/-- Version, trace, span and whether the trace is sampled. -/
def Context.parent (c : Context) : String :=
  String.ofList (['0', '0', '-'] ++ Text.hexPadded 32 c.traceId ++
    '-' :: Text.hexPadded 16 c.spanId ++ '-' :: Text.hexPadded 2 (c.flags % 2))

def Context.stateText (c : Context) : String :=
  ",".intercalate (c.state.map fun (key, value) => key ++ "=" ++ value)

/-- What turns a context into fields. -/
inductive Propagator where
  | none
  | traceContext
  | fixed (fields : List (String × String))

def Propagator.fields (p : Propagator) (context : Option Context) : List (String × String) :=
  match p with
  | .none => []
  | .fixed fields => fields
  | .traceContext =>
    match context.filter Context.isValid with
    | some c => [("traceparent", c.parent), ("tracestate", c.stateText)]
    | _ => []

end Trace

/-- Metadata of a call. A key can have several values. -/
abbrev Metadata := List (String × String)

namespace Metadata

/-- Whether a text can be a value: it has no controls other than the tab. -/
def isValue (s : String) : Bool :=
  s.toList.all fun c => c = '\t' || (0x20 ≤ c.toNat && c.toNat ≠ 0x7F)

/-- Sets a key to one value in place of those it has. -/
def set (m : Metadata) (key value : String) : Metadata :=
  m.filter (·.1 ≠ key) ++ [(key, value)]

/-- Takes a field of a trace context over. Other fields, and values that cannot be one, are left
out. -/
def inject (m : Metadata) (field : String × String) : Metadata :=
  let key := String.ofList (field.1.toList.map Char.toLower)
  if (key = "traceparent" ∨ key = "tracestate") ∧ isValue field.2 then m.set key field.2 else m

/-- The metadata of a call in a trace context. -/
def injectContext (m : Metadata) (p : Trace.Propagator) (context : Option Trace.Context) :
    Metadata :=
  (p.fields context).foldl inject m

end Metadata

end AgentRelay
