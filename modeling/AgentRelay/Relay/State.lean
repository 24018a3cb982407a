import AgentRelay.App.Json
import AgentRelay.Relay.Accounting

/-! What an agent tells about its host and the apps it has found there. -/
namespace AgentRelay

/-- An app found on the host; its kind is as the agent calls it. -/
structure DiscoveredApp where
  kind : String
  accessPoints : List AccessPoint
deriving DecidableEq

structure HostState where
  address : String
  agentVersion : String
  cpus : Int64
  cpusLoad : String
  memory : Int64
  hostname : String
  uptime : Int64
  usedMemory : Int64
  os : String
  platform : String
  platformFamily : String
  platformVersion : String
  kernelVersion : String
  kernelArch : String
  virtualizationSystem : String
  virtualizationRole : String
  hostId : String
  error : String
  apps : List DiscoveredApp
deriving DecidableEq

/-- The access point that a report describes, where its kind is known and its port is one. An empty
key is no key. -/
def AccessPoint.ofReport? (p : Protocol.AccessPoint) : Option AccessPoint :=
  match AccessPoint.Kind.ofName? p.type with
  | none => none
  | some kind =>
    if 0 ≤ p.port.toInt ∧ p.port.toInt ≤ 65535 then
      some ⟨kind, p.address, UInt16.ofNat p.port.toInt.toNat,
        if p.key = "" then none else some p.key⟩
    else none

/-- What is logged about an access point of an app that is left out. -/
def AccessPoint.reportLog (app : String) (p : Protocol.AccessPoint) : List Log.Entry :=
  match AccessPoint.Kind.ofName? p.type with
  | none => [⟨.warn, "skipping access point", [("app", .text app),
      ("error", .text (AccessPoint.Kind.unknownMessage p.type))]⟩]
  | some _ =>
    if 0 ≤ p.port.toInt ∧ p.port.toInt ≤ 65535 then []
    else [⟨.warn, "skipping access point with invalid port", [("app", .text app),
      ("port", .int p.port.toInt)]⟩]

def DiscoveredApp.ofReport (app : Protocol.App) : DiscoveredApp :=
  ⟨app.type, app.accessPoints.filterMap AccessPoint.ofReport?⟩

def DiscoveredApp.reportLog (app : Protocol.App) : List Log.Entry :=
  app.accessPoints.flatMap (AccessPoint.reportLog app.type)

def HostState.ofReport (address : String) (m : Protocol.GetStateRsp) : HostState where
  address := address
  agentVersion := m.agentVersion
  cpus := m.cpus
  cpusLoad := m.cpusLoad
  memory := m.memory
  hostname := m.hostname
  uptime := m.uptime
  usedMemory := m.usedMemory
  os := m.os
  platform := m.platform
  platformFamily := m.platformFamily
  platformVersion := m.platformVersion
  kernelVersion := m.kernelVersion
  kernelArch := m.kernelArch
  virtualizationSystem := m.virtualizationSystem
  virtualizationRole := m.virtualizationRole
  hostId := m.hostId
  error := m.error
  apps := m.apps.map DiscoveredApp.ofReport

/-! ### As JSON -/

open Json in
def DiscoveredApp.chars (app : DiscoveredApp) : List Char := objectChars [
  memberChars "kind" (stringChars app.kind),
  memberChars "access_points" (arrayChars (app.accessPoints.map AccessPoint.chars))]

open Json in
def HostState.chars (s : HostState) : List Char := objectChars [
  memberChars "address" (stringChars s.address),
  memberChars "agent_version" (stringChars s.agentVersion),
  memberChars "cpus" (intChars s.cpus.toInt),
  memberChars "cpus_load" (stringChars s.cpusLoad),
  memberChars "memory" (intChars s.memory.toInt),
  memberChars "hostname" (stringChars s.hostname),
  memberChars "uptime" (intChars s.uptime.toInt),
  memberChars "used_memory" (intChars s.usedMemory.toInt),
  memberChars "os" (stringChars s.os),
  memberChars "platform" (stringChars s.platform),
  memberChars "platform_family" (stringChars s.platformFamily),
  memberChars "platform_version" (stringChars s.platformVersion),
  memberChars "kernel_version" (stringChars s.kernelVersion),
  memberChars "kernel_arch" (stringChars s.kernelArch),
  memberChars "virtualization_system" (stringChars s.virtualizationSystem),
  memberChars "virtualization_role" (stringChars s.virtualizationRole),
  memberChars "host_id" (stringChars s.hostId),
  memberChars "error" (stringChars s.error),
  memberChars "apps" (arrayChars (s.apps.map DiscoveredApp.chars))]

namespace Relay

/-- Asks the agent at the address for the state of its host. -/
def Operation.hostState {ω : Type} (address : String) (port : UInt16) :
    Operation ω (Except Error HostState) :=
  .roundTrip ⟨0, address, port⟩ "get state" (.getState {}) fun reply r =>
    match reply.bind Response.getState? with
    | .error e => (.error e, r)
    | .ok message =>
      (.ok (.ofReport address message), r.log (message.apps.flatMap DiscoveredApp.reportLog))

end Relay

end AgentRelay
