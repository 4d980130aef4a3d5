import BroadcastHub.Text.Invisible

/-!
# Quoted text in messages

A text is quoted so that it can be read off a message unambiguously: characters
without a mark of their own are written as their number in hexadecimal.
-/

namespace BroadcastHub.Text

/-- The number of a character between braces. -/
def numberEscape (char : Char) : List Char :=
  ['\\', 'u', '\x7b'] ++ Nat.toDigits 16 char.toNat ++ ['\x7d']

/-- The characters that stand for one character of a quoted text. -/
def quotedChar (char : Char) : List Char :=
  if char = '\x00' then ['\\', '0']
  else if char = '\t' then ['\\', 't']
  else if char = '\n' then ['\\', 'n']
  else if char = '\r' then ['\\', 'r']
  else if char = '"' then ['\\', '"']
  else if char = '\\' then ['\\', '\\']
  else if isInvisible char then numberEscape char
  else [char]

def quoted (text : String) : String :=
  "\"" ++ String.ofList (text.toList.flatMap quotedChar) ++ "\""

end BroadcastHub.Text
