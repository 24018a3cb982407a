import AgentRelay.Protocol.Schema
import AgentRelay.Request

/-! Requests and responses as JSON objects of their messages. -/
namespace AgentRelay

open Protocol

namespace Request

/-- The request for an operation with a given message. -/
def ofJson? (operation : String) (message : Json.Value) : Option Request :=
  match operation with
  | "get_state" => (GetStateReq.schema.ofJson? message).map .getState
  | "forward_rndc_command" => (ForwardRndcCommandReq.schema.ofJson? message).map .forwardRndcCommand
  | "forward_to_named_stats" =>
    (ForwardToNamedStatsReq.schema.ofJson? message).map .forwardToNamedStats
  | "forward_to_kea_over_http" =>
    (ForwardToKeaOverHttpReq.schema.ofJson? message).map .forwardToKeaOverHttp
  | "tail_text_file" => (TailTextFileReq.schema.ofJson? message).map .tailTextFile
  | _ => none

def toJson : Request → Json.Value
  | .getState m => GetStateReq.schema.toJson m
  | .forwardRndcCommand m => ForwardRndcCommandReq.schema.toJson m
  | .forwardToNamedStats m => ForwardToNamedStatsReq.schema.toJson m
  | .forwardToKeaOverHttp m => ForwardToKeaOverHttpReq.schema.toJson m
  | .tailTextFile m => TailTextFileReq.schema.toJson m

end Request

namespace Response

/-- The response of a kind with a given message. -/
def ofJson? (kind : String) (message : Json.Value) : Option Response :=
  match kind with
  | "GetState" => (GetStateRsp.schema.ofJson? message).map .getState
  | "ForwardRndcCommand" => (ForwardRndcCommandRsp.schema.ofJson? message).map .forwardRndcCommand
  | "ForwardToNamedStats" =>
    (ForwardToNamedStatsRsp.schema.ofJson? message).map .forwardToNamedStats
  | "ForwardToKeaOverHttp" =>
    (ForwardToKeaOverHttpRsp.schema.ofJson? message).map .forwardToKeaOverHttp
  | "TailTextFile" => (TailTextFileRsp.schema.ofJson? message).map .tailTextFile
  | _ => none

def toJson : Response → Json.Value
  | .getState m => GetStateRsp.schema.toJson m
  | .forwardRndcCommand m => ForwardRndcCommandRsp.schema.toJson m
  | .forwardToNamedStats m => ForwardToNamedStatsRsp.schema.toJson m
  | .forwardToKeaOverHttp m => ForwardToKeaOverHttpRsp.schema.toJson m
  | .tailTextFile m => TailTextFileRsp.schema.toJson m

end Response

end AgentRelay
