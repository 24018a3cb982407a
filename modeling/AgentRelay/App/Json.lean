import AgentRelay.App
import AgentRelay.Json.Decoder
import AgentRelay.Json.Printer

/-! Access points, machines, daemons and apps as JSON. -/
namespace AgentRelay

open Json

/-! ### Access points -/

namespace AccessPoint

def Kind.chars (k : Kind) : List Char := stringChars k.name

def Kind.decoder : Decoder Kind :=
  .oneOf (Kind.control.name, .control) (Kind.statistics.name, .statistics)

structure Draft where
  kind : Option Kind := none
  address : Option String := none
  port : Option UInt16 := none
  key : Option (Option String) := none

def record : Record Draft AccessPoint where
  name := "AccessPoint"
  fields := [
    .of "kind" false Draft.kind (fun d v => { d with kind := v }) Kind.decoder,
    .of "address" false Draft.address (fun d v => { d with address := v }) .string,
    .of "port" false Draft.port (fun d v => { d with port := v }) .uint16,
    .of "key" false Draft.key (fun d v => { d with key := some v }) (.option .string)]
  empty := {}
  finish d := do
    return ⟨← required "kind" d.kind, ← required "address" d.address, ← required "port" d.port,
      d.key.join⟩

def chars (p : AccessPoint) : List Char := objectChars [
  memberChars "kind" p.kind.chars,
  memberChars "address" (stringChars p.address),
  memberChars "port" (intChars p.port.toNat),
  memberChars "key" (match p.key with
    | none => Value.null.chars
    | some key => stringChars key)]

end AccessPoint

/-! ### Machines -/

namespace Machine

structure Draft where
  id : Option Int64 := none
  address : Option String := none
  agentPort : Option UInt16 := none

def record : Record Draft Machine where
  name := "MachineRef"
  fields := [
    .of "id" false Draft.id (fun d v => { d with id := v }) .int64,
    .of "address" false Draft.address (fun d v => { d with address := v }) .string,
    .of "agent_port" false Draft.agentPort (fun d v => { d with agentPort := v }) .uint16]
  empty := {}
  finish d := do
    return ⟨← required "id" d.id, ← required "address" d.address,
      ← required "agent_port" d.agentPort⟩

def chars (m : Machine) : List Char := objectChars [
  memberChars "id" (intChars m.id.toInt),
  memberChars "address" (stringChars m.address),
  memberChars "agent_port" (intChars m.agentPort.toNat)]

end Machine

/-! ### Daemons -/

namespace Daemon

structure Draft where
  id : Option Int64 := none
  name : Option String := none

def record : Record Draft Daemon where
  name := "DaemonRef"
  fields := [
    .of "id" false Draft.id (fun d v => { d with id := v }) .int64,
    .of "name" false Draft.name (fun d v => { d with name := v }) .string]
  empty := {}
  finish d := do
    return ⟨← required "id" d.id, ← required "name" d.name⟩

def chars (d : Daemon) : List Char := objectChars [
  memberChars "id" (intChars d.id.toInt),
  memberChars "name" (stringChars d.name)]

end Daemon

/-! ### Apps -/

namespace App

def Kind.chars (k : Kind) : List Char := stringChars k.name

def Kind.decoder : Decoder Kind := .oneOf (Kind.kea.name, .kea) (Kind.bind9.name, .bind9)

structure Draft where
  id : Option Int64 := none
  name : Option String := none
  kind : Option Kind := none
  machine : Option Machine := none
  accessPoints : Option (List AccessPoint) := none
  daemons : Option (List Daemon) := none

def record : Record Draft App where
  name := "App"
  fields := [
    .of "id" false Draft.id (fun d v => { d with id := v }) .int64,
    .of "name" false Draft.name (fun d v => { d with name := v }) .string,
    .of "kind" false Draft.kind (fun d v => { d with kind := v }) Kind.decoder,
    .of "machine" false Draft.machine (fun d v => { d with machine := v })
      Machine.record.decoder,
    .of "access_points" false Draft.accessPoints (fun d v => { d with accessPoints := v })
      (.list AccessPoint.record.decoder),
    .of "daemons" false Draft.daemons (fun d v => { d with daemons := v })
      (.list Daemon.record.decoder)]
  empty := {}
  finish d := do
    return ⟨← required "id" d.id, ← required "name" d.name, ← required "kind" d.kind,
      ← required "machine" d.machine, ← required "access_points" d.accessPoints,
      ← required "daemons" d.daemons⟩

def chars (app : App) : List Char := objectChars [
  memberChars "id" (intChars app.id.toInt),
  memberChars "name" (stringChars app.name),
  memberChars "kind" app.kind.chars,
  memberChars "machine" app.machine.chars,
  memberChars "access_points" (arrayChars (app.accessPoints.map AccessPoint.chars)),
  memberChars "daemons" (arrayChars (app.daemons.map Daemon.chars))]

end App

end AgentRelay
