import BroadcastHub.Octets

/-!
# Base64

Three octets are written as four characters of 64; a last group of one or two
octets is filled up with padding.
-/

namespace BroadcastHub.Text

def base64Char (value : Nat) : Char :=
  if value < 26 then Char.ofNat (65 + value)
  else if value < 52 then Char.ofNat (71 + value)
  else if value < 62 then Char.ofNat (value - 4)
  else if value = 62 then '+'
  else '/'

def base64Chars : Octets → List Char
  | [] => []
  | [first] =>
      let group := first.toNat * 65536
      [base64Char (group / 262144), base64Char (group / 4096 % 64), '=', '=']
  | [first, second] =>
      let group := first.toNat * 65536 + second.toNat * 256
      [base64Char (group / 262144), base64Char (group / 4096 % 64),
        base64Char (group / 64 % 64), '=']
  | first :: second :: third :: rest =>
      let group := first.toNat * 65536 + second.toNat * 256 + third.toNat
      base64Char (group / 262144) :: base64Char (group / 4096 % 64) ::
        base64Char (group / 64 % 64) :: base64Char (group % 64) ::
        base64Chars rest

def base64 (octets : Octets) : String := String.ofList (base64Chars octets)

end BroadcastHub.Text
