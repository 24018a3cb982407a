import AgentRelay.Json.Decoder
import AgentRelay.Relay.Accounting

/-! Queries to the statistics channel of a BIND 9 server, answered in JSON. -/
namespace AgentRelay.Relay

open Protocol

variable {ω α : Type}

def namedStatsOperation : String := "send named statistics command"

/-- The path below the access point, whatever number of slashes it starts with. -/
def namedStatsUrl (point : AccessPoint) (path : String) : String :=
  point.url ++ String.ofList (path.toList.dropWhile (· = '/'))

/-- The statistics, or what failed: the agent's own status comes first. -/
def namedStatsOutcome (decode : Json.Decoder α) (agent url : String)
    (message : ForwardToNamedStatsRsp) : Except Error α :=
  if succeeded message.status then
    match message.namedStatsResponse with
    | none => .error (.status url "missing statistics response")
    | some inner =>
      if succeeded inner.status then
        (Json.decodeText decode inner.response).mapError (.decode url ·.message)
      else .error (.status url (statusMessage inner.status))
  else .error (.status agent (statusMessage message.status))

/-- Queries a path on the app's statistics access point. -/
def Operation.namedStats (decode : Json.Decoder α) (app : App) (path : String) :
    Operation ω (Except Error α) :=
  match app.accessPoint? .statistics with
  | none => .refused (.error (.missingAccessPoint app.name .statistics))
  | some point =>
    let url := namedStatsUrl point path
    .roundTrip app.machine namedStatsOperation (.forwardToNamedStats ⟨url, some {}⟩)
      fun reply r =>
        match reply.bind Response.forwardToNamedStats? with
        | .error e => (.error e, r)
        | .ok message =>
          r.settleBind9 app ⟨point.address, point.port⟩ .statistics namedStatsOperation
            (namedStatsOutcome decode app.machine.agentAddress url message)

end AgentRelay.Relay
