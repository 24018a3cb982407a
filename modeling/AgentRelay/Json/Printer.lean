import AgentRelay.Decimal.Shortest
import AgentRelay.Json.Value
import AgentRelay.Text.Hex

/-! Compact JSON text: no blanks, strings with the shortest escapes, members in the order in which
they are given. -/
namespace AgentRelay.Json

def escaped (c : Char) : List Char :=
  if c = '"' then ['\\', '"']
  else if c = '\\' then ['\\', '\\']
  else if c = '\n' then ['\\', 'n']
  else if c = '\r' then ['\\', 'r']
  else if c = '\t' then ['\\', 't']
  else if c = '\x08' then ['\\', 'b']
  else if c = '\x0c' then ['\\', 'f']
  else if c.toNat < 0x20 then '\\' :: 'u' :: Text.hexPadded 4 c.toNat
  else [c]

def stringChars (s : String) : List Char :=
  '"' :: s.toList.flatMap escaped ++ ['"']

def intChars (n : Int) : List Char :=
  if n < 0 then '-' :: Nat.toDigits 10 n.natAbs else Nat.toDigits 10 n.natAbs

def Number.chars : Number → List Char
  | .integer n _ => intChars n
  | .float x => Decimal.floatChars x

/-- Comma-separated parts. -/
def commaSeparated : List (List Char) → List Char
  | [] => []
  | [x] => x
  | x :: y :: rest => x ++ ',' :: commaSeparated (y :: rest)

def arrayChars (items : List (List Char)) : List Char :=
  '[' :: commaSeparated items ++ [']']

def memberChars (name : String) (value : List Char) : List Char :=
  stringChars name ++ ':' :: value

def objectChars (members : List (List Char)) : List Char :=
  '\x7b' :: commaSeparated members ++ ['\x7d']

mutual

def Value.chars : Value → List Char
  | .null => ['n', 'u', 'l', 'l']
  | .bool true => ['t', 'r', 'u', 'e']
  | .bool false => ['f', 'a', 'l', 's', 'e']
  | .number n => n.chars
  | .string s => stringChars s
  | .array items => arrayChars (itemsChars items)
  | .object members => objectChars (membersChars members)

def itemsChars : List Value → List (List Char)
  | [] => []
  | v :: rest => v.chars :: itemsChars rest

def membersChars : List (String × Value) → List (List Char)
  | [] => []
  | (name, v) :: rest => memberChars name v.chars :: membersChars rest

end

def Value.print (v : Value) : String := String.ofList v.chars

end AgentRelay.Json
