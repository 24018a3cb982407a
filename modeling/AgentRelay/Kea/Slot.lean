import AgentRelay.Kea.Command
import AgentRelay.Kea.Response

/-! Where the response to one command is put. The elements of a response do not say which daemon
they come from; they get the names of the command's daemons by position. -/
namespace AgentRelay.Kea

open Json

inductive Slot where
  | headers (elements : List Header)
  | responses (elements : List Response)
  | values (elements : List Value)

section

variable {α : Type} [Element α]

/-- Names an element, unless it names a daemon already. -/
def assignDaemon (daemon : String) (element : α) : α :=
  match Element.daemon? element with
  | some name => if name = "" then Element.setDaemon daemon element else element
  | none => Element.setDaemon daemon element

/-- Names the elements by position; those beyond the daemons stay as they are. -/
def assignDaemons : List String → List α → List α
  | daemon :: daemons, element :: elements =>
    assignDaemon daemon element :: assignDaemons daemons elements
  | _, elements => elements

/-- Reads a payload as the response to a command. -/
def decodeElements (command : Command) (payload : String) : Except Json.Error (List α) :=
  (decodeText (.list Element.decoder) payload).map (assignDaemons command.daemons)

/-- Daemon and result of an element, either of which may be missing. -/
abbrev DaemonResult := Option String × Option Int64

def daemonResult (element : α) : DaemonResult := (Element.daemon? element, Element.result? element)

end

namespace Slot

/-- The slot with the response to a command in place of what it held. -/
def decode (command : Command) (payload : String) : Slot → Except Json.Error Slot
  | .headers _ => (decodeElements command payload).map .headers
  | .responses _ => (decodeElements command payload).map .responses
  | .values _ => (decodeElements command payload).map .values

/-- Puts the response to a command into the slot; a payload that cannot be read leaves it as it is. -/
def receive (command : Command) (payload : String) (slot : Slot) : Except Json.Error Unit × Slot :=
  match slot.decode command payload with
  | .ok filled => (.ok (), filled)
  | .error e => (.error e, slot)

def daemonResults : Slot → List DaemonResult
  | .headers elements => elements.map daemonResult
  | .responses elements => elements.map daemonResult
  | .values elements => elements.map daemonResult

end Slot

end AgentRelay.Kea
