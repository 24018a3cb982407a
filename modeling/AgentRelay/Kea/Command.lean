import AgentRelay.Json.Decoder
import AgentRelay.Json.Printer

/-! Commands for a Kea server, relayed as JSON documents. -/
namespace AgentRelay.Kea

open Json

/-- A command without daemons is meant for the control agent itself. -/
structure Command where
  name : String
  daemons : List String
  arguments : Option Value

namespace Command

/-- The document that is sent; empty parts are left out. -/
def chars (c : Command) : List Char := objectChars <|
  [memberChars "command" (stringChars c.name)] ++
  (if c.daemons.isEmpty then []
    else [memberChars "service" (arrayChars (c.daemons.map stringChars))]) ++
  match c.arguments with
  | none => []
  | some v => [memberChars "arguments" v.chars]

def print (c : Command) : String := String.ofList c.chars

structure Draft where
  name : Option String := none
  daemons : Option (List String) := none
  arguments : Option (Option Value) := none

def record : Record Draft Command where
  name := "KeaCommand"
  fields := [
    .of "command" false Draft.name (fun d v => { d with name := v }) .string,
    .of "service" true Draft.daemons (fun d v => { d with daemons := v }) (.list .string),
    .of "arguments" true Draft.arguments (fun d v => { d with arguments := some v })
      (.option .value)]
  empty := {}
  finish d := do
    return ⟨← required "command" d.name, d.daemons.getD [], d.arguments.join⟩

end Command

end AgentRelay.Kea
