import AgentRelay.Json.Decoder
import AgentRelay.Json.Printer

/-! The elements of the list with which a Kea server answers a command, one for each daemon the
command was sent to. An element is read with its arguments, without them, or as any JSON value. -/
namespace AgentRelay.Kea

open Json

/-- The result code of a command that was carried out. -/
def resultSuccess : Int64 := 0

/-- The result code of a failed command. -/
def resultError : Int64 := 1

/-- The result code of a command that the daemon does not know. -/
def resultUnsupported : Int64 := 2

/-- The result code of a command that was carried out and has nothing to show. -/
def resultEmpty : Int64 := 3

/-- An element without its arguments. The daemon is not read; it is assigned afterwards. -/
structure Header where
  result : Int64
  text : String
  daemon : String := ""

structure Response where
  result : Int64
  text : String
  arguments : Option (List (String × Value))
  daemon : String := ""

namespace Header

structure Draft where
  result : Option Int64 := none
  text : Option String := none

def record : Record Draft Header where
  name := "KeaResponseHeader"
  fields := [
    .of "result" false Draft.result (fun d v => { d with result := v }) .int64,
    .of "text" true Draft.text (fun d v => { d with text := v }) .string]
  empty := {}
  finish d := do
    return { result := ← required "result" d.result, text := d.text.getD "" }

def chars (h : Header) : List Char := objectChars [
  memberChars "result" (intChars h.result.toInt),
  memberChars "text" (stringChars h.text)]

end Header

namespace Response

structure Draft where
  result : Option Int64 := none
  text : Option String := none
  arguments : Option (Option (List (String × Value))) := none

def record : Record Draft Response where
  name := "KeaResponse"
  fields := [
    .of "result" false Draft.result (fun d v => { d with result := v }) .int64,
    .of "text" true Draft.text (fun d v => { d with text := v }) .string,
    .of "arguments" true Draft.arguments (fun d v => { d with arguments := some v })
      (.option (.members .value))]
  empty := {}
  finish d := do
    return { result := ← required "result" d.result, text := d.text.getD "",
             arguments := d.arguments.join }

def chars (r : Response) : List Char := objectChars [
  memberChars "result" (intChars r.result.toInt),
  memberChars "text" (stringChars r.text),
  memberChars "arguments" (match r.arguments with
    | none => Value.null.chars
    | some members => (Value.object members).chars)]

end Response

/-! ### What the forms of an element have in common -/

/-- An element of a response list. It names no daemon when the name is empty, and cannot carry a
name when there is none. -/
class Element (α : Type) where
  decoder : Decoder α
  daemon? : α → Option String
  result? : α → Option Int64
  setDaemon : String → α → α

instance : Element Header where
  decoder := Header.record.decoder
  daemon? h := some h.daemon
  result? h := some h.result
  setDaemon daemon h := { h with daemon }

instance : Element Response where
  decoder := Response.record.decoder
  daemon? r := some r.daemon
  result? r := some r.result
  setDaemon daemon r := { r with daemon }

/-- Only an object carries a name, and only text is one. -/
def valueDaemon? : Value → Option String
  | .object members =>
    match Ordered.find? "daemon" members with
    | none => some ""
    | some v => v.string?
  | _ => none

instance : Element Value where
  decoder := .value
  daemon? := valueDaemon?
  result? v := (v.member? "result").bind Value.int64?
  setDaemon daemon v := v.setMember "daemon" (.string daemon)

end AgentRelay.Kea
