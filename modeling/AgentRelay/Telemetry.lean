import AgentRelay.Trace
import AgentRelay.Uri

/-! Setting up logs, measurements and traces. -/
namespace AgentRelay.Telemetry

def defaultFilter : String := "info,heron=debug,tower=warn,hyper=warn,h2=warn"

/-- What is set up; nothing is exported without an endpoint. -/
structure Settings where
  serviceName : String := "heron"
  endpoint : Option String := none
  jsonLogs : Bool := true

inductive Fault where
  | tracer (message : String)
  | metrics (message : String)
  | subscriber (message : String)
deriving DecidableEq, Repr

def Fault.message : Fault → String
  | .tracer message => "failed to initialize tracer: " ++ message
  | .metrics message => "failed to initialize metrics exporter: " ++ message
  | .subscriber message => "failed to initialize tracing subscriber: " ++ message

/-- Sets telemetry up in a process where something receives the logs already or does not. Whatever
comes of it, trace contexts are propagated from then on. -/
def setUp (settings : Settings) (subscribed : Bool) : Trace.Propagator × Except Fault Unit :=
  let exporters : Except Fault Unit := match settings.endpoint with
    | none => .ok ()
    | some endpoint => (Uri.check endpoint).mapError fun f =>
        .metrics ("Metrics exporter otlp failed with invalid URI " ++ f.message)
  (.traceContext, do
    exporters
    if subscribed then
      throw (.subscriber "a global default trace dispatcher has already been set"))

end AgentRelay.Telemetry
