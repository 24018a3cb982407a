import AgentRelay.Text.Base64
import AgentRelay.Text.Blank
import AgentRelay.Text.Utf8

/-! Blocks of base-64 text between a begin line and an end line with the same tag, possibly with
headers before the data. Only the first block of a text is read. -/
namespace AgentRelay.Pem

structure Block where
  tag : String
  headers : List (String × String)
  contents : List UInt8
deriving DecidableEq, Repr

inductive Fault where
  | malformedFraming
  | missingBeginTag
  | missingEndTag
  | mismatchedTags (first last : String)
  | invalidHeader (line : String)
  | invalidData (fault : Text.Base64.Fault)
deriving DecidableEq, Repr

def Fault.message : Fault → String
  | .malformedFraming => "malformedframing"
  | .missingBeginTag => "missing BEGIN tag"
  | .missingEndTag => "missing END tag"
  | .mismatchedTags first last =>
    "mismatching BEGIN (\"" ++ first ++ "\") and END (\"" ++ last ++ "\") tags"
  | .invalidHeader line => "invalid header: " ++ line
  | .invalidData fault => "invalid data: " ++ fault.message

/-- Scans for a marker and returns what stands before it and what follows it. `missing` is the part
of the marker that is still to come; a character that does not fit starts the marker anew, and is
not itself taken for its first character. -/
def scanFor (marker : List Char) : (read missing : List Char) → List Char →
    Option (List Char × List Char)
  | _, _, [] => none
  | read, missing, c :: rest =>
    let missing := match missing with
      | m :: ms => if c = m then ms else marker
      | [] => marker
    if missing = [] then some (((c :: read).drop marker.length).reverse, rest)
    else scanFor marker (c :: read) missing rest

def splitAt (marker : String) (s : List Char) : Option (List Char × List Char) :=
  scanFor marker.toList [] marker.toList s

def isSpacing (c : Char) : Bool := c = ' ' || c = '\t' || c = '\n' || c = '\r'

/-- The parts of a block. -/
structure Frame where
  first : List Char
  headers : List Char
  data : List Char
  last : List Char

/-- Headers end at an empty line. -/
def splitHeaders (body : List Char) : List Char × List Char :=
  match splitAt "\n\n" body with
  | some parts => parts
  | none => (splitAt "\r\n\r\n" body).getD ([], body)

def frame? (s : List Char) : Option Frame := do
  let (_, s) ← splitAt "-----BEGIN " s
  let (first, s) ← splitAt "-----" s
  let (body, s) ← splitAt "-----END " (s.dropWhile isSpacing)
  let (last, _) ← splitAt "-----" s
  let (headers, data) := splitHeaders body
  return ⟨first, headers, data, last⟩

/-- A line, read backwards, without the carriage return at its end. -/
def lineOf : (backwards : List Char) → List Char
  | '\r' :: line => line.reverse
  | line => line.reverse

/-- The lines of a text, each with its end taken off; what follows the last line feed is a line, as
it stands, unless it is empty. -/
def linesOf : (backwards : List Char) → List Char → List (List Char)
  | [], [] => []
  | line, [] => [line.reverse]
  | line, c :: rest =>
    if c = '\n' then lineOf line :: linesOf [] rest else linesOf (c :: line) rest

/-- Name and value stand before and after the first colon. -/
def header (line : List Char) : Except Fault (String × String) :=
  match line.dropWhile (· ≠ ':') with
  | [] => .error (.invalidHeader (String.ofList line))
  | _ :: value => .ok (String.ofList (Text.trimChars (line.takeWhile (· ≠ ':'))),
      String.ofList (Text.trimChars value))

/-- The first block of a text. -/
def parse (text : String) : Except Fault Block := do
  match frame? text.toList with
  | none => throw .malformedFraming
  | some frame =>
    let first := String.ofList frame.first
    let last := String.ofList frame.last
    if first = "" then throw .missingBeginTag
    if last = "" then throw .missingEndTag
    if first ≠ last then throw (.mismatchedTags first last)
    let data := String.ofList (frame.data.filter (!Text.isBlank ·))
    let contents ← (Text.Base64.decode (Text.utf8Bytes data)).mapError .invalidData
    let headers ← (linesOf [] frame.headers).mapM header
    return ⟨first, headers, contents⟩

end AgentRelay.Pem
