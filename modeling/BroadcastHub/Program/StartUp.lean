import BroadcastHub.Program.Address
import BroadcastHub.Program.Arguments
import BroadcastHub.Program.LogFilter
import BroadcastHub.Settings.Load

/-!
# A run of the program

A run reads the command line, loads the settings, sets up logging, binds its
address and serves until it is told to stop.  Whatever fails first ends it.
-/

namespace BroadcastHub.Program

structure Surroundings where
  /-- The texts of the environment's variables. -/
  environment : Settings.Environment
  /-- What is found at a path. -/
  files : String → Settings.File

/-- One line of the log. -/
structure Event where
  level : Level
  target : String
  message : String
  /-- The number of sessions that were closed, where it is told. -/
  closed : Option Nat := none
deriving DecidableEq, Repr

/-- Why a run ends before it serves. -/
inductive StartFailure
  | refused (refusal : Refusal)
  /-- The settings cannot be had; the path is known if it was given. -/
  | settings (path : Option String)
  | logFilter (text : String)
  | bind
deriving DecidableEq, Repr

namespace StartFailure

/-- What is said about a failure. -/
def message : StartFailure → String
  | refused refusal => refusal.message
  | settings (some path) => "Error: Failed to load settings from " ++ path
  | settings none => "Error: Failed to load settings"
  | logFilter text => "Error: invalid log level directive: " ++ text
  | bind => "Error: Failed to bind server"

def exitCode : StartFailure → Nat
  | refused _ => 2
  | _ => 1

end StartFailure

/-- What a run that serves needs to know. -/
structure Service where
  settings : Settings
  /-- The address on which it listens. -/
  address : String
  filter : LogFilter

inductive Run
  | help
  | failed (failure : StartFailure)
  | serving (service : Service)

/-- The variable whose filter comes before that of the settings. -/
def filterVariable : String := "RUST_LOG"

def homeVariable : String := "HOME"

def variableNames : List String :=
  filterVariable :: homeVariable :: Settings.Environment.names

/-- The filter of a run: that of the environment if it is one, otherwise that of
the settings. -/
def chooseFilter (surroundings : Surroundings) (level : String) :
    Option LogFilter :=
  match (surroundings.environment filterVariable).bind LogFilter.ofText? with
  | some filter => some filter
  | none => LogFilter.ofText? level

def Arguments.settingsFilePath
    (arguments : Arguments) (environment : Settings.Environment) : String :=
  arguments.config.getD (Settings.defaultPath (environment homeVariable))

/-- Loads the settings and lays the command line over them. -/
def gatherSettings (surroundings : Surroundings) (arguments : Arguments) :
    Except StartFailure Settings :=
  let file :=
    surroundings.files (arguments.settingsFilePath surroundings.environment)
  match Settings.load file surroundings.environment with
  | .error _ => .error (.settings arguments.config)
  | .ok settings =>
      .ok { settings with
        server := { settings.server with
          host := arguments.host.getD settings.server.host
          port :=
            (arguments.port.map UInt16.ofNat).getD settings.server.port } }

def prepare (surroundings : Surroundings) (arguments : Arguments) :
    Except StartFailure Service := do
  let settings ← gatherSettings surroundings arguments
  match chooseFilter surroundings settings.logging.level with
  | none => .error (.logFilter settings.logging.level)
  | some filter =>
      match listenAddress? settings.server.host with
      | none => .error .bind
      | some address => .ok ⟨settings, address, filter⟩

/-- A run with the given command line. -/
def start (surroundings : Surroundings) (commandLine : List String) : Run :=
  match readCommandLine commandLine with
  | .error refusal => .failed (.refused refusal)
  | .ok .help => .help
  | .ok (.serve arguments) =>
      match prepare surroundings arguments with
      | .error failure => .failed failure
      | .ok service => .serving service

/-- Where the settings file of a run with the given command line is. -/
def settingsFilePath
    (environment : Settings.Environment) (commandLine : List String) : String :=
  match readCommandLine commandLine with
  | .ok (.serve arguments) => arguments.settingsFilePath environment
  | _ => ({} : Arguments).settingsFilePath environment

namespace Service

/-- What happens until a run serves. -/
def openingEvents (service : Service) (port : String) : List Event :=
  [⟨.info, "blop_server::metrics", "prometheus metrics recorder installed",
    none⟩, ⟨.info, "blop_server::server", "blop server listening", none⟩,
    ⟨.info, "blop", "blop listening on ws://" ++ service.address ++ ":" ++
      port ++ "/ws", none⟩]

/-- What happens when a run that has no clients is told to stop. -/
def closingEvents : List Event :=
  [⟨.info, "blop", "Shutting down...", none⟩,
    ⟨.info, "blop_server::shutdown", "closing all sessions", some 0⟩,
    ⟨.info, "blop", "Shutdown complete", some 0⟩]

def logged (service : Service) (events : List Event) : List Event :=
  events.filter fun event => service.filter.enables event.target event.level

/-- What a run that serves without clients logs up to its end. -/
def events (service : Service) (port : String) : List Event :=
  service.logged (service.openingEvents port ++ closingEvents)

end Service

end BroadcastHub.Program
