import BroadcastHub.Json.Value
import BroadcastHub.Numeral.Shortest

/-!
# Writing JSON texts

A value is written without blanks.  Only quotes, backslashes and control
characters are escaped.
-/

namespace BroadcastHub.Json

def hexDigit (value : Nat) : Char := Nat.digitChar (value % 16)

/-- The characters that stand for one character of a string. -/
def escaped (char : Char) : List Char :=
  if char = '"' then ['\\', '"']
  else if char = '\\' then ['\\', '\\']
  else if char = '\x08' then ['\\', 'b']
  else if char = '\x0c' then ['\\', 'f']
  else if char = '\n' then ['\\', 'n']
  else if char = '\r' then ['\\', 'r']
  else if char = '\t' then ['\\', 't']
  else if char.toNat < 0x20 then
    ['\\', 'u', '0', '0', hexDigit (char.toNat / 16), hexDigit char.toNat]
  else [char]

def quoted (text : String) : String :=
  "\"" ++ String.ofList (text.toList.flatMap escaped) ++ "\""

/-- An integer as digits, or the shortest text of a floating-point number. -/
def Number.text : Number → String
  | integer value =>
      if value < 0 then "-" ++ Nat.repr value.natAbs else Nat.repr value.natAbs
  | real value => value.text

mutual

def Value.text : Value → String
  | .null => "null"
  | .bool true => "true"
  | .bool false => "false"
  | .number value => value.text
  | .string value => quoted value
  | .array elements => "[" ++ ",".intercalate (elementTexts elements) ++ "]"
  | .object members => "\x7b" ++ ",".intercalate (memberTexts members) ++ "\x7d"

def elementTexts : List Value → List String
  | [] => []
  | value :: rest => value.text :: elementTexts rest

def memberTexts : List (String × Value) → List String
  | [] => []
  | (key, value) :: rest =>
      (quoted key ++ ":" ++ value.text) :: memberTexts rest

end

end BroadcastHub.Json
