import AgentRelay.Endpoint
import AgentRelay.Event

/-! The apps that agents look after: where their machine is, through which access points they are
controlled and observed, and which daemons they consist of. -/
namespace AgentRelay

inductive AccessPoint.Kind where
  | control
  | statistics
deriving DecidableEq, Repr

namespace AccessPoint.Kind

def name : Kind → String
  | .control => "control"
  | .statistics => "statistics"

def ofName? (s : String) : Option Kind :=
  if s = "control" then some .control
  else if s = "statistics" then some .statistics
  else none

/-- What is said of a text that names no kind. -/
def unknownMessage (s : String) : String := "unknown access point type " ++ s

end AccessPoint.Kind

structure AccessPoint where
  kind : AccessPoint.Kind
  address : String
  port : UInt16
  key : Option String
deriving DecidableEq

namespace AccessPoint

def endpoint (p : AccessPoint) : String := Endpoint.join p.address p.port

def url (p : AccessPoint) : String := Endpoint.url p.address p.port

end AccessPoint

/-- A machine and the port of its agent; the id is zero until the machine is stored. -/
structure Machine where
  id : Int64
  address : String
  agentPort : UInt16
deriving DecidableEq

namespace Machine

def agentAddress (m : Machine) : String := Endpoint.join m.address m.agentPort

def subject (m : Machine) : Subject := ⟨m.id, m.agentAddress⟩

end Machine

structure Daemon where
  id : Int64
  name : String
deriving DecidableEq

def Daemon.subject (d : Daemon) : Subject := ⟨d.id, d.name⟩

inductive App.Kind where
  | kea
  | bind9
deriving DecidableEq, Repr

def App.Kind.name : App.Kind → String
  | .kea => "kea"
  | .bind9 => "bind9"

structure App where
  id : Int64
  name : String
  kind : App.Kind
  machine : Machine
  accessPoints : List AccessPoint
  daemons : List Daemon
deriving DecidableEq

namespace App

/-- The first access point of the kind. -/
def accessPoint? (app : App) (kind : AccessPoint.Kind) : Option AccessPoint :=
  app.accessPoints.find? (·.kind = kind)

def daemon? (app : App) (name : String) : Option Daemon :=
  app.daemons.find? (·.name = name)

def subject (app : App) : Subject := ⟨app.id, app.name⟩

end App

end AgentRelay
