import BroadcastHub.Json.Printer
import BroadcastHub.Text.Quoted

/-!
# Values that do not fit the settings

Why a JSON value cannot be read as settings, and how each cause is worded.
-/

namespace BroadcastHub.Settings

/-- What a part of the settings has to be. -/
inductive Shape
  | text
  | boolean
  /-- An integer of 16 bits. -/
  | port
  /-- A size, which has 64 bits. -/
  | size
  /-- An integer of 64 bits. -/
  | count
  | settings
  | server
  | liveness
  | broadcast
  | shutdown
  | logging
deriving DecidableEq, Repr

def Shape.name : Shape → String
  | text => "a string"
  | boolean => "a boolean"
  | port => "u16"
  | size => "usize"
  | count => "u64"
  | settings => "struct BlopSettings"
  | server => "struct ServerSettings"
  | liveness => "struct LivenessSettings"
  | broadcast => "struct BroadcastSettings"
  | shutdown => "struct ShutdownSettings"
  | logging => "struct LoggingSettings"

/-- Why a value does not fit. -/
inductive Misfit
  /-- The value is of another type. -/
  | wrongType (found : Json.Value) (expected : Shape)
  /-- The value is an integer that the expected type does not hold. -/
  | outOfRange (found : Int) (expected : Shape)
  /-- An array has more elements than the section has entries. -/
  | tooLong (length : Nat)
deriving Repr

/-- How a value of the wrong type is named in messages. -/
def foundName : Json.Value → String
  | .null => "null"
  | .bool value => "boolean `" ++ (Json.Value.bool value).text ++ "`"
  | .number (.integer value) =>
      "integer `" ++ (Json.Number.integer value).text ++ "`"
  | .number (.real value) => "floating point `" ++ value.text ++ "`"
  | .string text => "string " ++ Text.quoted text
  | .array _ => "sequence"
  | .object _ => "map"

def Misfit.message : Misfit → String
  | wrongType found expected =>
      "invalid type: " ++ foundName found ++ ", expected " ++ expected.name
  | outOfRange found expected =>
      "invalid value: " ++ foundName (.ofInt found) ++ ", expected " ++
        expected.name
  | tooLong length =>
      "invalid length " ++ Nat.repr length ++
        ", expected fewer elements in array"

end BroadcastHub.Settings
