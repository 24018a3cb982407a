import AgentRelay.Protocol
import AgentRelay.Wire.Schema

/-! The messages on the wire: field numbers, names and kinds. -/
namespace AgentRelay.Protocol

open Wire

def Status.schema : Schema Status where
  name := "Status"
  empty := {}
  fields := [
    .single 1 "code" .int32 Status.code (fun m v => { m with code := v }),
    .single 2 "message" .string Status.message (fun m v => { m with message := v })]

def AccessPoint.schema : Schema AccessPoint where
  name := "AccessPoint"
  empty := {}
  fields := [
    .single 1 "type" .string AccessPoint.type (fun m v => { m with type := v }),
    .single 2 "address" .string AccessPoint.address (fun m v => { m with address := v }),
    .single 3 "port" .int64 AccessPoint.port (fun m v => { m with port := v }),
    .single 4 "key" .string AccessPoint.key (fun m v => { m with key := v })]

def App.schema : Schema App where
  name := "App"
  empty := {}
  fields := [
    .single 1 "type" .string App.type (fun m v => { m with type := v }),
    .messages 2 "access_points" AccessPoint.schema
      App.accessPoints (fun m v => { m with accessPoints := v })]

def GetStateReq.schema : Schema GetStateReq where
  name := "GetStateReq"
  empty := {}
  fields := []

def GetStateRsp.schema : Schema GetStateRsp where
  name := "GetStateRsp"
  empty := {}
  fields := [
    .single 1 "agent_version" .string
      GetStateRsp.agentVersion (fun m v => { m with agentVersion := v }),
    .messages 2 "apps" App.schema GetStateRsp.apps (fun m v => { m with apps := v }),
    .single 3 "hostname" .string GetStateRsp.hostname (fun m v => { m with hostname := v }),
    .single 4 "cpus" .int64 GetStateRsp.cpus (fun m v => { m with cpus := v }),
    .single 5 "cpus_load" .string GetStateRsp.cpusLoad (fun m v => { m with cpusLoad := v }),
    .single 6 "memory" .int64 GetStateRsp.memory (fun m v => { m with memory := v }),
    .single 7 "used_memory" .int64 GetStateRsp.usedMemory (fun m v => { m with usedMemory := v }),
    .single 8 "uptime" .int64 GetStateRsp.uptime (fun m v => { m with uptime := v }),
    .single 9 "error" .string GetStateRsp.error (fun m v => { m with error := v }),
    .single 10 "os" .string GetStateRsp.os (fun m v => { m with os := v }),
    .single 11 "platform" .string GetStateRsp.platform (fun m v => { m with platform := v }),
    .single 12 "platform_family" .string
      GetStateRsp.platformFamily (fun m v => { m with platformFamily := v }),
    .single 13 "platform_version" .string
      GetStateRsp.platformVersion (fun m v => { m with platformVersion := v }),
    .single 14 "kernel_version" .string
      GetStateRsp.kernelVersion (fun m v => { m with kernelVersion := v }),
    .single 15 "kernel_arch" .string
      GetStateRsp.kernelArch (fun m v => { m with kernelArch := v }),
    .single 16 "virtualization_system" .string
      GetStateRsp.virtualizationSystem (fun m v => { m with virtualizationSystem := v }),
    .single 17 "virtualization_role" .string
      GetStateRsp.virtualizationRole (fun m v => { m with virtualizationRole := v }),
    .single 18 "host_id" .string GetStateRsp.hostId (fun m v => { m with hostId := v })]

def RndcRequest.schema : Schema RndcRequest where
  name := "RndcRequest"
  empty := {}
  fields := [
    .single 1 "request" .string RndcRequest.request (fun m v => { m with request := v })]

def RndcResponse.schema : Schema RndcResponse where
  name := "RndcResponse"
  empty := {}
  fields := [
    .message 1 "status" Status.schema RndcResponse.status (fun m v => { m with status := v }),
    .single 2 "response" .string RndcResponse.response (fun m v => { m with response := v })]

def ForwardRndcCommandReq.schema : Schema ForwardRndcCommandReq where
  name := "ForwardRndcCommandReq"
  empty := {}
  fields := [
    .single 1 "address" .string ForwardRndcCommandReq.address (fun m v => { m with address := v }),
    .single 2 "port" .int64 ForwardRndcCommandReq.port (fun m v => { m with port := v }),
    .single 3 "key" .string ForwardRndcCommandReq.key (fun m v => { m with key := v }),
    .message 4 "rndc_request" RndcRequest.schema
      ForwardRndcCommandReq.rndcRequest (fun m v => { m with rndcRequest := v })]

def ForwardRndcCommandRsp.schema : Schema ForwardRndcCommandRsp where
  name := "ForwardRndcCommandRsp"
  empty := {}
  fields := [
    .message 1 "status" Status.schema
      ForwardRndcCommandRsp.status (fun m v => { m with status := v }),
    .message 2 "rndc_response" RndcResponse.schema
      ForwardRndcCommandRsp.rndcResponse (fun m v => { m with rndcResponse := v })]

def NamedStatsRequest.schema : Schema NamedStatsRequest where
  name := "NamedStatsRequest"
  empty := {}
  fields := [
    .single 1 "request" .string NamedStatsRequest.request (fun m v => { m with request := v })]

def NamedStatsResponse.schema : Schema NamedStatsResponse where
  name := "NamedStatsResponse"
  empty := {}
  fields := [
    .message 1 "status" Status.schema
      NamedStatsResponse.status (fun m v => { m with status := v }),
    .single 2 "response" .string NamedStatsResponse.response (fun m v => { m with response := v })]

def ForwardToNamedStatsReq.schema : Schema ForwardToNamedStatsReq where
  name := "ForwardToNamedStatsReq"
  empty := {}
  fields := [
    .single 1 "url" .string ForwardToNamedStatsReq.url (fun m v => { m with url := v }),
    .message 2 "named_stats_request" NamedStatsRequest.schema
      ForwardToNamedStatsReq.namedStatsRequest (fun m v => { m with namedStatsRequest := v })]

def ForwardToNamedStatsRsp.schema : Schema ForwardToNamedStatsRsp where
  name := "ForwardToNamedStatsRsp"
  empty := {}
  fields := [
    .message 1 "status" Status.schema
      ForwardToNamedStatsRsp.status (fun m v => { m with status := v }),
    .message 2 "named_stats_response" NamedStatsResponse.schema
      ForwardToNamedStatsRsp.namedStatsResponse (fun m v => { m with namedStatsResponse := v })]

def KeaRequest.schema : Schema KeaRequest where
  name := "KeaRequest"
  empty := {}
  fields := [
    .single 1 "request" .string KeaRequest.request (fun m v => { m with request := v })]

def KeaResponse.schema : Schema KeaResponse where
  name := "KeaResponse"
  empty := {}
  fields := [
    .message 1 "status" Status.schema KeaResponse.status (fun m v => { m with status := v }),
    .single 2 "response" .string KeaResponse.response (fun m v => { m with response := v })]

def ForwardToKeaOverHttpReq.schema : Schema ForwardToKeaOverHttpReq where
  name := "ForwardToKeaOverHttpReq"
  empty := {}
  fields := [
    .single 1 "url" .string ForwardToKeaOverHttpReq.url (fun m v => { m with url := v }),
    .messages 2 "kea_requests" KeaRequest.schema
      ForwardToKeaOverHttpReq.keaRequests (fun m v => { m with keaRequests := v })]

def ForwardToKeaOverHttpRsp.schema : Schema ForwardToKeaOverHttpRsp where
  name := "ForwardToKeaOverHttpRsp"
  empty := {}
  fields := [
    .message 1 "status" Status.schema
      ForwardToKeaOverHttpRsp.status (fun m v => { m with status := v }),
    .messages 2 "kea_responses" KeaResponse.schema
      ForwardToKeaOverHttpRsp.keaResponses (fun m v => { m with keaResponses := v })]

def TailTextFileReq.schema : Schema TailTextFileReq where
  name := "TailTextFileReq"
  empty := {}
  fields := [
    .single 1 "path" .string TailTextFileReq.path (fun m v => { m with path := v }),
    .single 2 "offset" .int64 TailTextFileReq.offset (fun m v => { m with offset := v })]

def TailTextFileRsp.schema : Schema TailTextFileRsp where
  name := "TailTextFileRsp"
  empty := {}
  fields := [
    .message 1 "status" Status.schema TailTextFileRsp.status (fun m v => { m with status := v }),
    .repeated 2 "lines" .string TailTextFileRsp.lines (fun m v => { m with lines := v })]

/-- All messages. -/
def codecs : List JsonCodec := [
  Status.schema.jsonCodec,
  AccessPoint.schema.jsonCodec,
  App.schema.jsonCodec,
  GetStateReq.schema.jsonCodec,
  GetStateRsp.schema.jsonCodec,
  RndcRequest.schema.jsonCodec,
  RndcResponse.schema.jsonCodec,
  ForwardRndcCommandReq.schema.jsonCodec,
  ForwardRndcCommandRsp.schema.jsonCodec,
  NamedStatsRequest.schema.jsonCodec,
  NamedStatsResponse.schema.jsonCodec,
  ForwardToNamedStatsReq.schema.jsonCodec,
  ForwardToNamedStatsRsp.schema.jsonCodec,
  KeaRequest.schema.jsonCodec,
  KeaResponse.schema.jsonCodec,
  ForwardToKeaOverHttpReq.schema.jsonCodec,
  ForwardToKeaOverHttpRsp.schema.jsonCodec,
  TailTextFileReq.schema.jsonCodec,
  TailTextFileRsp.schema.jsonCodec]

/-- The message with a name. -/
def codec? (name : String) : Option JsonCodec := codecs.find? (·.name = name)

end AgentRelay.Protocol
