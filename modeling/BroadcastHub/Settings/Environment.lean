import BroadcastHub.Numeral.Decimal
import BroadcastHub.Numeral.Power
import BroadcastHub.Settings.Bounds

/-!
# Settings from the environment

Nine variables take precedence over the settings file.  A variable whose text is
not usable changes nothing, so no variable can bring a setting out of its
bounds.
-/

namespace BroadcastHub.Settings

/-- The text of each variable that is set to text. -/
abbrev Environment := String → Option String

/-- Reads one of eight words, in any case.  No character outside of ASCII has
one of their letters as its lower case. -/
def readWord? (text : String) : Option Bool :=
  let word := text.map Char.toLower
  if ["true", "1", "yes", "on"].contains word then some true
  else if ["false", "0", "no", "off"].contains word then some false
  else none

/-- Reads a number of 64 bits that lies between two bounds. -/
def readNumber? (bounds : Bounds) (text : String) : Option Nat :=
  (Numeral.ofText? text).filter fun value => value < Numeral.twoTo 64 &&
    bounds.contain value

namespace Environment

/-- A variable's text if it is not empty. -/
def text? (environment : Environment) (name : String) : Option String :=
  (environment name).filter fun text => text ≠ ""

def number? (environment : Environment) (name : String) (bounds : Bounds) :
    Option UInt64 :=
  ((environment name).bind (readNumber? bounds)).map UInt64.ofNat

/-- A variable's truth value if it is usable. -/
def word? (environment : Environment) (name : String) : Option Bool :=
  (environment name).bind readWord?

/-- The server section below the environment's variables. -/
def overServer (environment : Environment) (settings : ServerSection) :
    ServerSection :=
  { settings with
    host := (environment.text? "BLOP_HOST").getD settings.host
    port :=
      ((environment.number? "BLOP_PORT" ⟨0, 65535⟩).map fun port =>
        port.toUInt16).getD
          settings.port
    maxConnections :=
      (environment.number? "BLOP_MAX_CONNECTIONS" ⟨0, 1000000⟩).getD
        settings.maxConnections }

/-- The liveness section below the environment's variables. -/
def overLiveness (environment : Environment) (settings : LivenessSection) :
    LivenessSection where
  heartbeatTimeout :=
    (environment.number? "BLOP_HEARTBEAT_TIMEOUT_MS" .heartbeatTimeout).getD
      settings.heartbeatTimeout
  pongWriteTimeout :=
    (environment.number? "BLOP_PONG_WRITE_TIMEOUT_MS" .pongWriteTimeout).getD
      settings.pongWriteTimeout
  pongJitter :=
    (environment.number? "BLOP_PONG_JITTER_MS" .pongJitter).getD
      settings.pongJitter

/-- The broadcast section below the environment's variable. -/
def overBroadcast (environment : Environment) (settings : BroadcastSection) :
    BroadcastSection where
  writeTimeout :=
    (environment.number? "BLOP_BROADCAST_WRITE_TIMEOUT_MS" .writeTimeout).getD
      settings.writeTimeout

/-- The logging section below the environment's variables. -/
def overLogging (environment : Environment) (settings : LoggingSection) :
    LoggingSection where
  level := (environment.text? "BLOP_LOG_LEVEL").getD settings.level
  json := (environment.word? "BLOP_LOG_JSON").getD settings.json

def names : List String :=
  ["BLOP_HOST", "BLOP_PORT", "BLOP_MAX_CONNECTIONS",
    "BLOP_HEARTBEAT_TIMEOUT_MS",
    "BLOP_PONG_WRITE_TIMEOUT_MS", "BLOP_PONG_JITTER_MS",
    "BLOP_BROADCAST_WRITE_TIMEOUT_MS", "BLOP_LOG_LEVEL", "BLOP_LOG_JSON"]

/-- The settings below the environment's variables. -/
def override (environment : Environment) (settings : Settings) : Settings :=
  { settings with
    server := environment.overServer settings.server
    liveness := environment.overLiveness settings.liveness
    broadcast := environment.overBroadcast settings.broadcast
    logging := environment.overLogging settings.logging }

end Environment

end BroadcastHub.Settings
