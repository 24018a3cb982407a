import AgentRelay.Relay.Accounting

/-! The end of a text file on the host of an agent. -/
namespace AgentRelay.Relay

/-- The lines of a file from `offset` bytes before its end. -/
def Operation.textTail {ω : Type} (machine : Machine) (path : String) (offset : Int64) :
    Operation ω (Except Error (List String)) :=
  .roundTrip machine "tail text file" (.tailTextFile ⟨path, offset⟩) fun reply r =>
    match reply.bind Response.tailTextFile? with
    | .error e => (.error e, r)
    | .ok message =>
      if Protocol.succeeded message.status then (.ok message.lines, r)
      else (.error (.status machine.agentAddress (Protocol.statusMessage message.status)), r)

end AgentRelay.Relay
