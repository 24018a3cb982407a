import AgentRelay.Error
import AgentRelay.Log
import AgentRelay.Protocol

/-! The five operations that an agent serves: requests, responses, and what answers them. -/
namespace AgentRelay

open Protocol

inductive Request where
  | getState (message : GetStateReq)
  | forwardRndcCommand (message : ForwardRndcCommandReq)
  | forwardToNamedStats (message : ForwardToNamedStatsReq)
  | forwardToKeaOverHttp (message : ForwardToKeaOverHttpReq)
  | tailTextFile (message : TailTextFileReq)
deriving DecidableEq

inductive Response where
  | getState (message : GetStateRsp)
  | forwardRndcCommand (message : ForwardRndcCommandRsp)
  | forwardToNamedStats (message : ForwardToNamedStatsRsp)
  | forwardToKeaOverHttp (message : ForwardToKeaOverHttpRsp)
  | tailTextFile (message : TailTextFileRsp)
deriving DecidableEq

/-- The name of the operation in logs and measurements. -/
def Request.operation : Request → String
  | .getState _ => "get_state"
  | .forwardRndcCommand _ => "forward_rndc_command"
  | .forwardToNamedStats _ => "forward_to_named_stats"
  | .forwardToKeaOverHttp _ => "forward_to_kea_over_http"
  | .tailTextFile _ => "tail_text_file"

/-- What an agent does on each of the operations. -/
structure Remote where
  getState : GetStateReq → Except Rpc.Status GetStateRsp
  forwardRndcCommand : ForwardRndcCommandReq → Except Rpc.Status ForwardRndcCommandRsp
  forwardToNamedStats : ForwardToNamedStatsReq → Except Rpc.Status ForwardToNamedStatsRsp
  forwardToKeaOverHttp : ForwardToKeaOverHttpReq → Except Rpc.Status ForwardToKeaOverHttpRsp
  tailTextFile : TailTextFileReq → Except Rpc.Status TailTextFileRsp

/-- An agent on which every operation fails alike. -/
def Remote.failing (status : Rpc.Status) : Remote where
  getState _ := .error status
  forwardRndcCommand _ := .error status
  forwardToNamedStats _ := .error status
  forwardToKeaOverHttp _ := .error status
  tailTextFile _ := .error status

/-- Asks for the operation of a request. -/
def Remote.answer (remote : Remote) : Request → Except Rpc.Status Response
  | .getState message => (remote.getState message).map .getState
  | .forwardRndcCommand message => (remote.forwardRndcCommand message).map .forwardRndcCommand
  | .forwardToNamedStats message => (remote.forwardToNamedStats message).map .forwardToNamedStats
  | .forwardToKeaOverHttp message => (remote.forwardToKeaOverHttp message).map .forwardToKeaOverHttp
  | .tailTextFile message => (remote.tailTextFile message).map .tailTextFile

namespace Response

def kind : Response → String
  | .getState _ => "GetState"
  | .forwardRndcCommand _ => "ForwardRndcCommand"
  | .forwardToNamedStats _ => "ForwardToNamedStats"
  | .forwardToKeaOverHttp _ => "ForwardToKeaOverHttp"
  | .tailTextFile _ => "TailTextFile"

/-! ### The response to a given operation

A response of another operation is an error. -/

def unexpected (expected : String) (r : Response) : Error :=
  .unexpectedResponse expected r.kind

def getState? : Response → Except Error GetStateRsp
  | .getState message => .ok message
  | other => .error (other.unexpected "GetState")

def forwardRndcCommand? : Response → Except Error ForwardRndcCommandRsp
  | .forwardRndcCommand message => .ok message
  | other => .error (other.unexpected "ForwardRndcCommand")

def forwardToNamedStats? : Response → Except Error ForwardToNamedStatsRsp
  | .forwardToNamedStats message => .ok message
  | other => .error (other.unexpected "ForwardToNamedStats")

def forwardToKeaOverHttp? : Response → Except Error ForwardToKeaOverHttpRsp
  | .forwardToKeaOverHttp message => .ok message
  | other => .error (other.unexpected "ForwardToKeaOverHttp")

def tailTextFile? : Response → Except Error TailTextFileRsp
  | .tailTextFile message => .ok message
  | other => .error (other.unexpected "TailTextFile")

/-- What is logged about a response of another operation. -/
def mismatchEntry (expected actual : String) : Log.Entry :=
  ⟨.error, "agent reply does not match its request",
    [("expected", .text expected), ("actual", .text actual)]⟩

/-- The log of taking a response apart. -/
def mismatchLog {α : Type} : Except Error α → List Log.Entry
  | .error (.unexpectedResponse expected actual) => [mismatchEntry expected actual]
  | _ => []

end Response

end AgentRelay
