import AgentRelay.Protocol.Schema
import AgentRelay.Request
import AgentRelay.Trace

/-! Calls to an agent as messages on the wire. -/
namespace AgentRelay

open Protocol

/-- A call as the agent sees it. -/
structure Rpc.Call where
  path : String
  metadata : Metadata
  message : Wire.Bytes

namespace Request

/-- The method of the service that the request is for. -/
def method : Request → String
  | .getState _ => "GetState"
  | .forwardRndcCommand _ => "ForwardRndcCommand"
  | .forwardToNamedStats _ => "ForwardToNamedStats"
  | .forwardToKeaOverHttp _ => "ForwardToKeaOverHttp"
  | .tailTextFile _ => "TailTextFile"

def encode : Request → Wire.Bytes
  | .getState m => GetStateReq.schema.encode m
  | .forwardRndcCommand m => ForwardRndcCommandReq.schema.encode m
  | .forwardToNamedStats m => ForwardToNamedStatsReq.schema.encode m
  | .forwardToKeaOverHttp m => ForwardToKeaOverHttpReq.schema.encode m
  | .tailTextFile m => TailTextFileReq.schema.encode m

def call (r : Request) (metadata : Metadata) : Rpc.Call :=
  ⟨"/heron.agent.v1.Agent/" ++ r.method, metadata, r.encode⟩

/-- The bytes of a response to the request. -/
def decodeResponse (bytes : Wire.Bytes) : Request → Except Wire.Error Response
  | .getState _ => (GetStateRsp.schema.decode bytes).map .getState
  | .forwardRndcCommand _ => (ForwardRndcCommandRsp.schema.decode bytes).map .forwardRndcCommand
  | .forwardToNamedStats _ => (ForwardToNamedStatsRsp.schema.decode bytes).map .forwardToNamedStats
  | .forwardToKeaOverHttp _ =>
    (ForwardToKeaOverHttpRsp.schema.decode bytes).map .forwardToKeaOverHttp
  | .tailTextFile _ => (TailTextFileRsp.schema.decode bytes).map .tailTextFile

end Request

namespace Rpc

/-- What carries calls to an agent and brings back the bytes of the response. -/
abbrev Channel := Call → Except Status Wire.Bytes

/-- A call that ends well without a response has failed all the same. -/
def Status.withoutResponse (s : Status) : Status :=
  if s.code = .ok then ⟨.internal, "Missing response message.", []⟩ else s

/-- Sends a request over a channel. A response that cannot be decoded is an internal failure. -/
def send (channel : Channel) (metadata : Metadata) (request : Request) :
    Except Status Response := do
  let bytes ← (channel (request.call metadata)).mapError Status.withoutResponse
  (request.decodeResponse bytes).mapError fun e => ⟨.internal, e.message, []⟩

end Rpc

end AgentRelay
