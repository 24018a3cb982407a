import AgentRelay.Text.Hex
import AgentRelay.Text.Unprintable

/-! Text between double quotes, as diagnostics show it: the quote, the backslash and the common
controls have a short escape, every other unprintable character is spelled by its code point. -/
namespace AgentRelay.Text

def quotedChar (c : Char) : List Char :=
  if c = '"' then ['\\', '"']
  else if c = '\\' then ['\\', '\\']
  else if c = '\n' then ['\\', 'n']
  else if c = '\t' then ['\\', 't']
  else if c = '\r' then ['\\', 'r']
  else if c.toNat = 0 then ['\\', '0']
  else if isUnprintable c then
    ['\\', 'u', '\x7b'] ++ hex c.toNat ++ ['\x7d']
  else [c]

def quoted (s : String) : String :=
  String.ofList ('"' :: s.toList.flatMap quotedChar ++ ['"'])

end AgentRelay.Text
