import BroadcastHub.Json.Merge
import BroadcastHub.Json.Parser
import BroadcastHub.Octets
import BroadcastHub.Settings.Environment
import BroadcastHub.Settings.Reader
import BroadcastHub.Text.Utf8

/-!
# Loading settings

Settings come in three layers: standard values, the settings file, the
environment.  The file's value is laid over the standard settings, the result is
read, the environment's variables are laid over that, and what comes out must be
accepted.
-/

namespace BroadcastHub.Settings

/-- What is found where the settings file should be. -/
inductive File
  | missing
  | directory
  | content (octets : Octets)
deriving DecidableEq, Repr

/-- Why settings cannot be had. -/
inductive Failure
  /-- The file is a directory. -/
  | isDirectory
  /-- The file is not text. -/
  | notText
  /-- The file is not JSON. -/
  | notJson (cause : Json.Malformation)
  /-- The JSON value does not fit. -/
  | misfit (cause : Misfit)
  /-- A setting is not accepted. -/
  | rejected (cause : Rejection)
deriving Repr

/-- The wording of a failure; for a text that is not JSON only its beginning is
fixed. -/
def Failure.message : Failure → String
  | isDirectory => "failed to read settings file: Is a directory (os error 21)"
  | notText =>
      "failed to read settings file: stream did not contain valid UTF-8"
  | notJson _ => "failed to parse settings JSON: "
  | misfit cause => "failed to parse settings JSON: " ++ cause.message
  | rejected cause => "invalid settings value: " ++ cause.message

/-- Reads a JSON text as settings, without standard values laid under it. -/
def parse (text : String) : Except Failure Settings :=
  match Json.parse text with
  | .error cause => .error (.notJson cause)
  | .ok value => (ofValue value).mapError .misfit

def accept (settings : Settings) : Except Failure Settings :=
  match settings.rejection? with
  | some cause => .error (.rejected cause)
  | none => .ok settings

/-- The value that a file lays over the standard settings. -/
def File.value? : File → Except Failure (Option Json.Value)
  | missing => .ok none
  | directory => .error .isDirectory
  | content octets =>
      match Text.ofUtf8? octets with
      | none => .error .notText
      | some text =>
          match Json.parse text with
          | .error cause => .error (.notJson cause)
          | .ok value => .ok (some value)

/-- The standard settings with a file's value laid over them. -/
def layered : Option Json.Value → Json.Value
  | none => standard.toValue
  | some value => standard.toValue.merge value

def File.settings (file : File) : Except Failure Settings := do
  (ofValue (layered (← file.value?))).mapError .misfit

/-- The settings of a file below the environment's variables. -/
def load (file : File) (environment : Environment) :
  Except Failure Settings := do
  accept (environment.override (← file.settings))

/-- Joins a directory and a name with one slash, unless the directory ends with
one or is empty. -/
def joinPath (directory name : String) : String :=
  if directory = "" ∨
    directory.toList.getLast? = some '/' then directory ++ name
  else directory ++ "/" ++ name

/-- Where the settings file is, given the home directory if it is known. -/
def defaultPath (home : Option String) : String :=
  joinPath (joinPath (home.getD "/tmp") ".blop") "settings.json"

end BroadcastHub.Settings
