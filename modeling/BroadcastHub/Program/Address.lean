import BroadcastHub.Numeral.Decimal

/-!
# Addresses to listen on

The host of the settings may be an address or the name of the local host.  Other
names need a name service, which a server that is being started does not rely
on.
-/

namespace BroadcastHub.Program

/-- The text of four numbers below 256 between points. -/
def dottedAddress? (host : String) : Option String := do
  let numbers ← (host.splitOn ".").mapM fun part =>
    Numeral.ofDigits? part.toList
  if numbers.length = 4 ∧ numbers.all fun number => number < 256 then
    some (".".intercalate (numbers.map Nat.repr))
  else none

/-- Whether a text has the characters of an address of sixteen octets. -/
def isColonAddress (host : List Char) : Bool :=
  host.contains ':' && host.all fun char =>
    char = ':' || char.isDigit || ('a' ≤ char && char ≤ 'f') ||
      ('A' ≤ char && char ≤ 'F')

/-- The text between brackets, or the whole text if there are none. -/
def unbracketed (host : List Char) : List Char :=
  match host with
  | '[' :: rest => if rest.getLast? = some ']' then rest.dropLast else host
  | _ => host

/-- The address on which a server with a host listens, if the host can be
resolved. -/
def listenAddress? (host : String) : Option String :=
  if host = "localhost" then some "127.0.0.1"
  else
    match dottedAddress? host with
    | some address => some address
    | none =>
        let inner := unbracketed host.toList
        if isColonAddress inner then
          some ("[" ++ String.ofList (inner.map Char.toLower) ++ "]")
        else none

/-- Why no client is served on a host by a process that is not connected to any
network. -/
inductive ListenFailure
  /-- The host cannot be resolved. -/
  | unresolved
  /-- No client reaches the address. -/
  | unreachable
deriving DecidableEq, Repr

/-- What becomes of the attempt to serve a client on a host. -/
def listenFailure (host : String) : ListenFailure :=
  if (listenAddress? host).isSome then .unreachable else .unresolved

end BroadcastHub.Program
