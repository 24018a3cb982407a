import AgentRelay.Text.Hex
import AgentRelay.Text.Unsigned

/-! Names under which a server can prove who it is: host names and IP addresses. -/
namespace AgentRelay.ServerName

/-- The parts of a text between separators. -/
def splitOn (separator : Char) : (part : List Char) → List Char → List (List Char)
  | part, [] => [part.reverse]
  | part, c :: rest =>
    if c = separator then part.reverse :: splitOn separator [] rest
    else splitOn separator (c :: part) rest

/-! ### Host names -/

def isLabelChar (c : Char) : Bool := c.isAlphanum || c = '-' || c = '_'

/-- A label neither starts nor ends with a hyphen. -/
def isLabel (label : List Char) : Bool :=
  label.all isLabelChar && 1 ≤ label.length && label.length ≤ 63 &&
    label.head? ≠ some '-' && label.getLast? ≠ some '-'

/-- The labels of a name; the last one may be followed by a dot. -/
def labels (s : List Char) : List (List Char) :=
  let parts := splitOn '.' [] s
  if parts.getLast? = some [] then parts.dropLast else parts

/-- The last label is not a number. -/
def isDnsName (s : List Char) : Bool :=
  let labels := labels s
  s.length ≤ 253 && labels.all isLabel &&
    match labels.getLast? with
    | none => false
    | some label => !label.all Char.isDigit

/-! ### Addresses -/

def isOctet (s : List Char) : Bool :=
  s ≠ [] && s.all Char.isDigit && s.length ≤ 3 && Text.decimalValue s ≤ 255 &&
    (s.length = 1 || s.head? ≠ some '0')

def isIpv4 (s : List Char) : Bool :=
  let octets := splitOn '.' [] s
  octets.length = 4 && octets.all isOctet

def isGroup (s : List Char) : Bool :=
  1 ≤ s.length && s.length ≤ 4 && s.all fun c => (Text.hexValue? c).isSome

/-- How many groups of sixteen bits the parts make; an address of the older kind may stand for the
last two of them. -/
def groupCount? (ipv4 : Bool) : List (List Char) → Option Nat
  | [] => some 0
  | [last] => if isGroup last then some 1 else if ipv4 && isIpv4 last then some 2 else none
  | part :: rest => if isGroup part then (groupCount? ipv4 rest).map (· + 1) else none

def groups? (ipv4 : Bool) (s : List Char) : Option Nat :=
  if s = [] then some 0 else groupCount? ipv4 (splitOn ':' [] s)

/-- What stands before and after the first two colons in a row. -/
def splitGap : List Char → Option (List Char × List Char)
  | ':' :: ':' :: rest => some ([], rest)
  | c :: rest => (splitGap rest).map fun (head, tail) => (c :: head, tail)
  | [] => none

def isIpv6 (s : List Char) : Bool :=
  match splitGap s with
  | none => groups? true s == some 8
  | some (head, tail) =>
    match groups? false head, groups? true tail with
    | some h, some t => h + t ≤ 7
    | _, _ => false

def isValid (name : String) : Bool :=
  let s := name.toList
  isDnsName s || isIpv4 s || isIpv6 s

end AgentRelay.ServerName
