/-! Whether a text is a URI. Without a scheme it is a host alone or a path alone. -/
namespace AgentRelay.Uri

inductive Fault where
  | empty
  | tooLong
  | schemeTooLong
  | invalidCharacter
  | invalidAuthority
  | invalidFormat
deriving DecidableEq, Repr

def Fault.message : Fault → String
  | .empty => "empty string"
  | .tooLong => "uri too long"
  | .schemeTooLong => "scheme too long"
  | .invalidCharacter => "invalid uri character"
  | .invalidAuthority => "invalid authority"
  | .invalidFormat => "invalid format"

/-! ### The authority -/

def isAuthorityChar (c : Char) : Bool :=
  c.isAlphanum || "!$&'()*+,-.:;=@[]_~".toList.contains c

/-- What has been seen of an authority. User information that turns out to stand before an at sign
is forgotten. -/
structure AuthorityScan where
  colons : Nat := 0
  opened : Bool := false
  closed : Bool := false
  percent : Bool := false
  afterAt : Bool := false

def AuthorityScan.next (a : AuthorityScan) (c : Char) : Except Fault AuthorityScan :=
  let a := { a with afterAt := c = '@' }
  if c = ':' then
    if 8 ≤ a.colons then .error .invalidAuthority else .ok { a with colons := a.colons + 1 }
  else if c = '[' then
    if a.percent || a.opened then .error .invalidAuthority else .ok { a with opened := true }
  else if c = ']' then
    if !a.opened || a.closed then .error .invalidAuthority
    else .ok { a with closed := true, colons := 0, percent := false }
  else if c = '@' then .ok { a with colons := 0, percent := false }
  else if c = '%' then .ok { a with percent := true }
  else if isAuthorityChar c then .ok a
  else .error .invalidCharacter

def AuthorityScan.finish (a : AuthorityScan) : Except Fault Unit :=
  if a.opened ≠ a.closed ∨ 1 < a.colons ∨ a.afterAt ∨ a.percent then .error .invalidAuthority
  else .ok ()

def endsAuthority (c : Char) : Bool := c = '/' || c = '?' || c = '#'

/-- Checks an authority. -/
def checkAuthority (s : List Char) : Except Fault Unit := do
  (← s.foldlM AuthorityScan.next {}).finish

/-! ### Path and query -/

def isPathChar (c : Char) : Bool :=
  let n := c.toNat
  n = 0x21 || n = 0x22 || (0x24 ≤ n && n ≤ 0x3B) || n = 0x3D || (0x40 ≤ n && n ≤ 0x5F) ||
    (0x61 ≤ n && n ≠ 0x7F)

def isQueryChar (c : Char) : Bool :=
  let n := c.toNat
  n = 0x21 || (0x24 ≤ n && n ≤ 0x3B) || n = 0x3D || (0x3F ≤ n && n ≠ 0x7F)

/-- A fragment is not looked at. -/
def checkPath (s : List Char) : Except Fault Unit :=
  let s := s.takeWhile (· ≠ '#')
  let path := s.takeWhile (· ≠ '?')
  let query := (s.dropWhile (· ≠ '?')).drop 1
  if path.all isPathChar && query.all isQueryChar then .ok () else .error .invalidCharacter

/-! ### Whole texts -/

def isSchemeChar (c : Char) : Bool := c.isAlphanum || "+-.~".toList.contains c

/-- What follows the scheme, if there is one. -/
def afterScheme (s : List Char) : Except Fault (Option (List Char)) :=
  match s, s.dropWhile isSchemeChar with
  | [':', '/', '/'], _ => .ok none
  | _, ':' :: '/' :: '/' :: rest =>
    if 64 < (s.takeWhile isSchemeChar).length then .error .schemeTooLong else .ok (some rest)
  | _, _ => .ok none

/-- The longest text that is looked at, in bytes. -/
def maxLength : Nat := 65534

def check (text : String) : Except Fault Unit := do
  let s := text.toList
  if maxLength < text.utf8ByteSize then throw .tooLong
  match s with
  | [] => throw .empty
  | ['*'] => return
  | '/' :: _ => checkPath s
  | _ =>
    match ← afterScheme s with
    | none =>
      let authority := s.takeWhile (!endsAuthority ·)
      checkAuthority authority
      if authority ≠ s then
        throw (if s.length = 1 then .invalidCharacter else .invalidFormat)
    | some [] => throw .empty
    | some rest =>
      let authority := rest.takeWhile (!endsAuthority ·)
      checkAuthority authority
      if authority = [] then throw .invalidFormat
      checkPath (rest.dropWhile (!endsAuthority ·))

end AgentRelay.Uri
