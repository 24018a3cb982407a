import AgentRelay.Json.Printer
import AgentRelay.Log
import AgentRelay.Text.Replace

/-! Notifications for the operator. The text of an event refers to a machine, an app and a daemon by
placeholders, which are replaced by the labels of the subjects that are present. Events are
published to a sink, and publishing never fails. -/
namespace AgentRelay

/-- What an event is about; the id is zero where none is known. -/
structure Subject where
  id : Int64
  label : String
deriving DecidableEq

inductive Event.Level where
  | info
  | warning
  | error
deriving DecidableEq, Repr

structure Event where
  level : Event.Level
  text : String
  details : Option String := none
  machine : Option Subject := none
  app : Option Subject := none
  daemon : Option Subject := none
deriving DecidableEq

namespace Event

def Level.name : Level → String
  | .info => "info"
  | .warning => "warning"
  | .error => "error"

def Level.logLevel : Level → Log.Level
  | .info => .info
  | .warning => .warn
  | .error => .error

def fill (placeholder : String) (subject : Option Subject) (text : List Char) : List Char :=
  match subject with
  | some s => Text.replace placeholder.toList s.label.toList text
  | none => text

/-- The text with the labels in place: first the machine's, then the app's, then the daemon's. -/
def render (e : Event) : String :=
  String.ofList <|
    fill "\x7bdaemon\x7d" e.daemon <|
      fill "\x7bapp\x7d" e.app <|
        fill "\x7bmachine\x7d" e.machine e.text.toList

/-- The event as a line of the log. -/
def logEntry (e : Event) : Log.Entry :=
  ⟨e.level.logLevel, e.render, [("details", .text (e.details.getD ""))]⟩

/-! ### Sinks -/

/-- Events that are kept, in the order of their publication. -/
structure Memory where
  events : List Event := []
deriving DecidableEq

namespace Memory

def publish (m : Memory) (e : Event) : Memory := ⟨m.events ++ [e]⟩

/-- The kept events with this text, in which the placeholders still stand. -/
def withText (m : Memory) (text : String) : List Event := m.events.filter (·.text = text)

def clear (_ : Memory) : Memory := {}

theorem events_publishAll (m : Memory) (events : List Event) :
    (events.foldl publish m).events = m.events ++ events := by
  induction events generalizing m with
  | nil => exact (List.append_nil _).symm
  | cons e events ih =>
    rw [List.foldl_cons, ih]
    exact List.append_assoc m.events [e] events

theorem withText_publishAll (m : Memory) (events : List Event) (text : String) :
    (events.foldl publish m).withText text =
      m.withText text ++ events.filter (·.text = text) := by
  rw [withText, events_publishAll, List.filter_append]
  rfl

end Memory

/-- Where events go: into the log, nowhere, or into a memory. -/
inductive Sink where
  | log
  | silent
  | memory (kept : Memory)

/-- The sink after an event was published to it, and what it has written to the log. -/
def Sink.publish (e : Event) : Sink → Sink × List Log.Entry
  | .log => (.log, [e.logEntry])
  | .silent => (.silent, [])
  | .memory kept => (.memory (kept.publish e), [])

/-! ### As JSON -/

open Json in
def subjectChars : Option Subject → List Char
  | none => Value.null.chars
  | some s => objectChars [memberChars "id" (intChars s.id.toInt),
      memberChars "label" (stringChars s.label)]

open Json in
def print (e : Event) : String :=
  String.ofList <| objectChars [
    memberChars "level" (stringChars e.level.name),
    memberChars "text" (stringChars e.text),
    memberChars "details" (match e.details with
      | none => Value.null.chars
      | some d => stringChars d),
    memberChars "machine" (subjectChars e.machine),
    memberChars "app" (subjectChars e.app),
    memberChars "daemon" (subjectChars e.daemon)]

end Event

end AgentRelay
