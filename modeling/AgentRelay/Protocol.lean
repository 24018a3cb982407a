/-! The messages that the server and an agent exchange. Every field has a default, which stands for
its absence on the wire; a submessage may be absent itself. -/
namespace AgentRelay.Protocol

/-- The outcome of a request or of one of its parts; the code zero is a success. -/
structure Status where
  code : Int32 := 0
  message : String := ""
deriving DecidableEq

structure AccessPoint where
  type : String := ""
  address : String := ""
  port : Int64 := 0
  key : String := ""
deriving DecidableEq

structure App where
  type : String := ""
  accessPoints : List AccessPoint := []
deriving DecidableEq

structure GetStateReq where
deriving DecidableEq

structure GetStateRsp where
  agentVersion : String := ""
  apps : List App := []
  hostname : String := ""
  cpus : Int64 := 0
  cpusLoad : String := ""
  memory : Int64 := 0
  usedMemory : Int64 := 0
  uptime : Int64 := 0
  error : String := ""
  os : String := ""
  platform : String := ""
  platformFamily : String := ""
  platformVersion : String := ""
  kernelVersion : String := ""
  kernelArch : String := ""
  virtualizationSystem : String := ""
  virtualizationRole : String := ""
  hostId : String := ""
deriving DecidableEq

structure RndcRequest where
  request : String := ""
deriving DecidableEq

structure RndcResponse where
  status : Option Status := none
  response : String := ""
deriving DecidableEq

structure ForwardRndcCommandReq where
  address : String := ""
  port : Int64 := 0
  key : String := ""
  rndcRequest : Option RndcRequest := none
deriving DecidableEq

structure ForwardRndcCommandRsp where
  status : Option Status := none
  rndcResponse : Option RndcResponse := none
deriving DecidableEq

structure NamedStatsRequest where
  request : String := ""
deriving DecidableEq

structure NamedStatsResponse where
  status : Option Status := none
  response : String := ""
deriving DecidableEq

structure ForwardToNamedStatsReq where
  url : String := ""
  namedStatsRequest : Option NamedStatsRequest := none
deriving DecidableEq

structure ForwardToNamedStatsRsp where
  status : Option Status := none
  namedStatsResponse : Option NamedStatsResponse := none
deriving DecidableEq

structure KeaRequest where
  request : String := ""
deriving DecidableEq

structure KeaResponse where
  status : Option Status := none
  response : String := ""
deriving DecidableEq

structure ForwardToKeaOverHttpReq where
  url : String := ""
  keaRequests : List KeaRequest := []
deriving DecidableEq

structure ForwardToKeaOverHttpRsp where
  status : Option Status := none
  keaResponses : List KeaResponse := []
deriving DecidableEq

structure TailTextFileReq where
  path : String := ""
  offset : Int64 := 0
deriving DecidableEq

structure TailTextFileRsp where
  status : Option Status := none
  lines : List String := []
deriving DecidableEq

/-! ### Statuses -/

namespace Status

def ok : Status := {}

def error (message : String) : Status := ⟨1, message⟩

def isOk (s : Status) : Bool := s.code == 0

end Status

/-- A status that is missing reports no success. -/
def succeeded (status : Option Status) : Bool := status.any Status.isOk

/-- What a status says, in words of its own where it says nothing. -/
def statusMessage : Option Status → String
  | none => "missing status in response"
  | some s => if s.message = "" then "remote reported an error without a message" else s.message

end AgentRelay.Protocol
