/-! One line for a chain of messages, the outermost first. -/
namespace AgentRelay.ErrorChain

/-- Appends the links that follow `last`. A link is left out where the one before it already ends
with it, and where it is empty. -/
def extend (line last : List Char) : List (List Char) → List Char
  | [] => line
  | message :: rest =>
    if message ≠ [] ∧ ¬message.isSuffixOf last then
      extend (line ++ ':' :: ' ' :: message) message rest
    else extend line message rest

def lineChars : List (List Char) → List Char
  | [] => []
  | message :: rest => extend message message rest

/-- The messages joined by `": "`. -/
def line (messages : List String) : String :=
  String.ofList (lineChars (messages.map String.toList))

end AgentRelay.ErrorChain
