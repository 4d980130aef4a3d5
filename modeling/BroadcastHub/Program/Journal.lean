import BroadcastHub.Json.Printer
import BroadcastHub.Program.StartUp

/-!
# Lines of the log

An event is written as one line, either as plain text or as a JSON object.
-/

namespace BroadcastHub.Program.Event

def toValue (event : Event) : Json.Value :=
  let closed :=
    match event.closed with
    | some count => [("closed", Json.Value.ofNat count)]
    | none => []
  .ofMembers
    [("fields", .ofMembers (("message", .string event.message) :: closed)),
      ("level", .string event.level.name), ("target", .string event.target)]

def text (event : Event) : String :=
  let closed :=
    match event.closed with
    | some count => " closed=" ++ Nat.repr count
    | none => ""
  event.level.name ++ " " ++ event.target ++ ": " ++ event.message ++ closed

def line (event : Event) (json : Bool) : String :=
  if json then event.toValue.text else event.text

end BroadcastHub.Program.Event
