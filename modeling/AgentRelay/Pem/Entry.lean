import AgentRelay.Text.Base64
import AgentRelay.Text.Utf8

/-! The entries of a text that is read line by line. A line that starts with a begin mark opens an
entry, and a line that starts with the end mark for its label closes it; the lines between them are
its data, and lines outside of entries mean nothing. -/
namespace AgentRelay.Pem

structure Entry where
  label : String
  contents : List UInt8
deriving DecidableEq, Repr

/-- What a text holds up to its first fault, and whether it has none. -/
structure Entries where
  entries : List Entry
  complete : Bool

/-- Only entries with these labels are looked into. -/
def knownLabels : List String :=
  ["CERTIFICATE", "PUBLIC KEY", "RSA PRIVATE KEY", "PRIVATE KEY", "EC PRIVATE KEY", "X509 CRL",
    "CERTIFICATE REQUEST", "ECHCONFIG"]

/-- The lines of a text, each with the line feed or the carriage return that ends it. -/
def endedLines : (backwards : List Char) → List Char → List (List Char)
  | [], [] => []
  | line, [] => [line.reverse]
  | line, c :: rest =>
    if c = '\n' ∨ c = '\r' then (c :: line).reverse :: endedLines [] rest
    else endedLines (c :: line) rest

def beginMark : List Char := "-----BEGIN ".toList

def endMark (label : List Char) : List Char := "-----END ".toList ++ label ++ "-----".toList

/-- The label of a line with a begin mark. Five hyphens stand at the end of the line; there may be
blanks between and behind them. -/
def labelOf? (line : List Char) : Option (List Char) :=
  let isTail (c : Char) : Bool := c = '-' || c = ' ' || c = '\n' || c = '\r'
  let tail := (line.reverse.takeWhile isTail).reverse.dropWhile (· ≠ '-')
  if tail.count '-' = 5 then
    some ((line.take (line.length - tail.length)).drop beginMark.length)
  else none

/-- An entry that is still open. -/
structure OpenEntry where
  label : List Char
  data : List Char

def contents? (data : List Char) : Option (List UInt8) :=
  Text.Base64.decodeLines? (Text.utf8Bytes (String.ofList data))

/-- A begin mark within an entry gives it another label; its data stays. -/
def readEntries : Option OpenEntry → List (List Char) → Entries
  | none, [] => ⟨[], true⟩
  | some _, [] => ⟨[], false⟩
  | entry, line :: rest =>
    if beginMark.isPrefixOf line then
      match labelOf? line with
      | none => ⟨[], false⟩
      | some label => readEntries (some ⟨label, (entry.map OpenEntry.data).getD []⟩) rest
    else
      match entry with
      | none => readEntries none rest
      | some entry =>
        if (endMark entry.label).isPrefixOf line then
          let label := String.ofList entry.label
          if knownLabels.contains label then
            match contents? entry.data with
            | none => ⟨[], false⟩
            | some contents =>
              let others := readEntries none rest
              ⟨⟨label, contents⟩ :: others.entries, others.complete⟩
          else readEntries none rest
        else readEntries (some { entry with data := entry.data ++ line }) rest

def entriesOf (text : String) : Entries := readEntries none (endedLines [] text.toList)

end AgentRelay.Pem
