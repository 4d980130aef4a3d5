import BroadcastHub.Program.Journal

/-!
# The program

The outer layer reads the command line, the environment and the settings file,
and writes what a run has to say.  A run that serves lasts until a line, or the
end, comes on the standard input.
-/

namespace BroadcastHub.Program

/-- What is found at a path.  What is there but cannot be read counts as a
directory. -/
def readSettingsFile (path : String) : IO Settings.File := do
  try
    return .content (← IO.FS.readBinFile path).toList
  catch
    | .noFileOrDirectory .. => return .missing
    | _ => return .directory

def readVariables : IO Settings.Environment := do
  let texts ← variableNames.mapM fun name => do return (name, ← IO.getEnv name)
  return fun name => (texts.find? fun (known, _) => known = name).bind Prod.snd

/-- What surrounds a run whose command line is given. -/
def readSurroundings (commandLine : List String) : IO Surroundings := do
  let environment ← readVariables
  let file ← readSettingsFile (settingsFilePath environment commandLine)
  return { environment, files := fun _ => file }

def writeEvents (json : Bool) (events : List Event) : IO Unit :=
  events.forM fun event => IO.println (event.line json)

/-- Does what a run comes to; answers the exit code. -/
def conclude : Run → IO UInt32
  | .help => do
    IO.println helpLine
    return 0
  | .failed failure => do
    IO.eprintln failure.message
    return UInt32.ofNat failure.exitCode
  | .serving service => do
    let json := service.settings.logging.json
    let port := Nat.repr service.settings.server.port.toNat
    writeEvents json (service.logged (service.openingEvents port))
    let _ ← (← IO.getStdin).getLine
    writeEvents json (service.logged Service.closingEvents)
    return 0

end BroadcastHub.Program

def main (commandLine : List String) : IO UInt32 := do
  let surroundings ← BroadcastHub.Program.readSurroundings commandLine
  BroadcastHub.Program.conclude
    (BroadcastHub.Program.start surroundings commandLine)
