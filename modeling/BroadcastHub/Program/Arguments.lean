import BroadcastHub.Numeral.Decimal
import BroadcastHub.Numeral.Power

/-!
# Command line

The program takes three options with a value each, which follows as the next
argument or after an equals sign.  An option whose value is the next argument is
looked at when the argument after that is known, so a fault in that one can come
first.
-/

namespace BroadcastHub.Program

/-- The options that take a value. -/
inductive Setting
  | host
  | port
  | config
deriving DecidableEq, Repr

namespace Setting

def name : Setting → String
  | host => "host"
  | port => "port"
  | config => "config"

/-- How an option and its value are shown. -/
def usage : Setting → String
  | host => "--host <HOST>"
  | port => "--port <PORT>"
  | config => "--config <CONFIG>"

def ofName? (name : String) : Option Setting :=
  [host, port, config].find? fun setting => setting.name = name

end Setting

inductive PortFault
  | empty
  | notDigits
  | tooLarge
  | tooSmall
  | outOfRange (value : Int)
deriving DecidableEq, Repr

def PortFault.message : PortFault → String
  | empty => "cannot parse integer from empty string"
  | notDigits => "invalid digit found in string"
  | tooLarge => "number too large to fit in target type"
  | tooSmall => "number too small to fit in target type"
  | outOfRange value =>
      (if value < 0 then "-" else "") ++ Nat.repr value.natAbs ++
        " is not in 0..=65535"

/-- Reads an integer of 64 bits with its sign. -/
def readInteger (text : String) : Except PortFault Int :=
  let number (negative : Bool) (digits : List Char) : Except PortFault Int :=
    match Numeral.ofDigits? digits with
    | none => .error .notDigits
    | some value =>
        if negative then if value ≤ Numeral.twoTo 63 then .ok (-(value : Int))
          else .error .tooSmall
        else if value < Numeral.twoTo 63 then .ok value else .error .tooLarge
  match text.toList with
  | [] => .error .empty
  | '-' :: digits => number true digits
  | '+' :: digits => number false digits
  | digits => number false digits

def readPort (text : String) : Except PortFault Nat := do
  let value ← readInteger text
  if 0 ≤ value ∧
    value ≤ 65535 then .ok value.toNat else .error (.outOfRange value)

/-- Why a command line is refused. -/
inductive Refusal
  | unexpected (argument : String)
  /-- An option without its value. -/
  | missingValue (setting : Setting)
  | repeated (setting : Setting)
  | invalidPort (value : String) (fault : PortFault)
  /-- A value for an option that takes none. -/
  | unneededValue (value : String)
deriving DecidableEq, Repr

/-- The first line of what is said about a refusal. -/
def Refusal.message : Refusal → String
  | unexpected argument =>
      "error: unexpected argument '" ++ argument ++ "' found"
  | missingValue setting =>
      "error: a value is required for '" ++ setting.usage ++
        "' but none was supplied"
  | repeated setting =>
      "error: the argument '" ++ setting.usage ++
        "' cannot be used multiple times"
  | invalidPort value fault =>
      "error: invalid value '" ++ value ++ "' for '" ++ Setting.port.usage ++
        "': " ++
        fault.message
  | unneededValue value =>
      "error: unexpected value '" ++ value ++
        "' for '--help' found; no more were expected"

/-- What the command line says. -/
structure Arguments where
  host : Option String := none
  port : Option Nat := none
  config : Option String := none
deriving DecidableEq, Repr

namespace Arguments

/-- Whether an option has been given. -/
def has (arguments : Arguments) : Setting → Bool
  | .host => arguments.host.isSome
  | .port => arguments.port.isSome
  | .config => arguments.config.isSome

/-- Takes an option with its value. -/
def set (arguments : Arguments) (setting : Setting) (value : String) :
    Except Refusal Arguments :=
  if arguments.has setting then .error (.repeated setting)
  else
    match setting with
    | .host => .ok { arguments with host := some value }
    | .port =>
        match readPort value with
        | .ok port => .ok { arguments with port := some port }
        | .error fault => .error (.invalidPort value fault)
    | .config =>
        if value = "" then .error (.missingValue .config)
        else .ok { arguments with config := some value }

end Arguments

/-- An option whose value was or will be an argument of its own. -/
structure Pending where
  setting : Setting
  value : Option String := none

/-- Takes the option that is pending, if there is one. -/
def resolve (arguments : Arguments) : Option Pending → Except Refusal Arguments
  | none => .ok arguments
  | some ⟨setting, none⟩ => .error (.missingValue setting)
  | some ⟨setting, some value⟩ => arguments.set setting value

/-- What the command line asks for. -/
inductive Invocation
  | help
  | serve (arguments : Arguments)
deriving DecidableEq, Repr

/-- The name and the value of a long option. -/
def splitLong (text : List Char) : String × Option String :=
  let name := text.takeWhile fun char => char ≠ '='
  (String.ofList name,
    match text.drop name.length with
    | [] => none
    | _ :: value => some (String.ofList value))

/-- What one argument does to what has been read. -/
inductive Reading
  | goOn (arguments : Arguments) (pending : Option Pending)
  | help
  | refused (refusal : Refusal)
  /-- Nothing but plain arguments may follow, and there are none. -/
  | plainOnly

namespace Reading

/-- Goes on, or refuses. -/
def ofResult
    (result : Except Refusal Arguments) (pending : Option Pending) : Reading :=
  match result with
  | .ok arguments => goOn arguments pending
  | .error refusal => refused refusal

end Reading

/-- Asks for help once what is pending is taken. -/
def readHelp (arguments : Arguments) (pending : Option Pending) : Reading :=
  match resolve arguments pending with
  | .ok _ => .help
  | .error refusal => .refused refusal

def readLong
    (arguments : Arguments) (pending : Option Pending) (text : List Char) :
    Reading :=
  match splitLong text with
  | ("help", none) => readHelp arguments pending
  | ("help", some value) => .refused (.unneededValue value)
  | (name, value) =>
      match Setting.ofName? name, value with
      | none, _ => .refused (.unexpected ("--" ++ name))
      | some setting, none =>
          .ofResult (resolve arguments pending) (some { setting })
      | some setting, some value =>
          .ofResult (do (← resolve arguments pending).set setting value) none

/-- Reads an argument that is not an option. -/
def readPlain
    (arguments : Arguments) (pending : Option Pending) (text : String) :
    Reading :=
  match pending with
  | some ⟨setting, none⟩ => .goOn arguments (some ⟨setting, some text⟩)
  | _ => .refused (.unexpected text)

def readArgument
    (arguments : Arguments) (pending : Option Pending) (text : String) :
    Reading :=
  match text.toList with
  | '-' :: '-' :: [] => .plainOnly
  | '-' :: '-' :: long => readLong arguments pending long
  | '-' :: 'h' :: _ => readHelp arguments pending
  | '-' :: short :: _ => .refused (.unexpected (String.ofList ['-', short]))
  | _ => readPlain arguments pending text

/-- Reads a command line from some point on. -/
def readFrom (arguments : Arguments) (pending : Option Pending) :
    List String → Except Refusal Invocation
  | [] => (resolve arguments pending).map .serve
  | text :: rest =>
      match readArgument arguments pending text with
      | .goOn arguments pending => readFrom arguments pending rest
      | .help => .ok .help
      | .refused refusal => .error refusal
      | .plainOnly =>
          match rest with
          | [] => (resolve arguments pending).map .serve
          | plain :: _ => .error (.unexpected plain)

def readCommandLine (texts : List String) : Except Refusal Invocation :=
  readFrom {} none texts

def helpLine : String := "WebSocket broadcast server"

end BroadcastHub.Program
