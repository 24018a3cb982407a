import AgentRelay.Relay.Accounting

/-! Commands for the control channel of a BIND 9 server. -/
namespace AgentRelay.Relay

open Protocol

variable {ω : Type}

def rndcOperation : String := "send rndc command"

def rndcRequest (point : AccessPoint) (command : String) : ForwardRndcCommandReq :=
  ⟨point.address, .ofNat point.port.toNat, point.key.getD "", some ⟨command⟩⟩

/-- What the server printed, or what failed: the agent's own status comes first. -/
def rndcOutcome (agent : String) (point : AccessPoint) (message : ForwardRndcCommandRsp) :
    Except Error String :=
  if succeeded message.status then
    match message.rndcResponse with
    | none => .error (.status point.endpoint "missing rndc response")
    | some inner =>
      if succeeded inner.status then .ok inner.response
      else .error (.status point.endpoint (statusMessage inner.status))
  else .error (.status agent (statusMessage message.status))

/-- Runs a command over the app's control access point. -/
def Operation.rndcCommand (app : App) (command : String) : Operation ω (Except Error String) :=
  match app.accessPoint? .control with
  | none => .refused (.error (.missingAccessPoint app.name .control))
  | some point =>
    .roundTrip app.machine rndcOperation (.forwardRndcCommand (rndcRequest point command))
      fun reply r =>
        match reply.bind Response.forwardRndcCommand? with
        | .error e => (.error e, r)
        | .ok message =>
          let r := r.log [⟨.debug, "rndc command answered",
            [("app", .text app.name), ("command", .text command)]⟩]
          r.settleBind9 app ⟨point.address, point.port⟩ .rndc rndcOperation
            (rndcOutcome app.machine.agentAddress point message)

end AgentRelay.Relay
