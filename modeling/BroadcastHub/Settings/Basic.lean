/-!
# Settings

The settings of a server process in five sections.  The values given here hold
where neither the settings file nor the environment says otherwise.
-/

namespace BroadcastHub

namespace Settings

/-- Where the server listens and how much it takes. -/
structure ServerSection where
  /-- The address to listen on. -/
  host : String := "127.0.0.1"
  /-- The port to listen on; 0 leaves the choice to the system. -/
  port : UInt16 := 8080
  /-- The greatest number of sessions at a time; 0 sets no bound. -/
  maxConnections : UInt64 := 0
  /-- The longest message that is taken from a client, in octets. -/
  maxMessageSize : UInt64 := 1048576
deriving DecidableEq, Repr

/-- How long a silent client is waited for, and how heartbeats are answered. -/
structure LivenessSection where
  /-- The window of silence after which a session ends, in milliseconds. -/
  heartbeatTimeout : UInt64 := 60000
  /-- The limit for writing a heartbeat reply, in milliseconds. -/
  pongWriteTimeout : UInt64 := 500
  /-- The greatest random delay of a heartbeat reply, in milliseconds. -/
  pongJitter : UInt64 := 0
deriving DecidableEq, Repr

structure BroadcastSection where
  /-- The limit for writing to one recipient, in milliseconds. -/
  writeTimeout : UInt64 := 2000
deriving DecidableEq, Repr

/-- How the process ends. -/
structure ShutdownSection where
  /-- How long open sessions are waited for, in milliseconds. -/
  drainTimeout : UInt64 := 5000
deriving DecidableEq, Repr

structure LoggingSection where
  /-- The filter that is used when the environment gives none. -/
  level : String := "info"
  /-- Whether events are written as JSON. -/
  json : Bool := false
deriving DecidableEq, Repr

end Settings

/-- All settings of a server process. -/
structure Settings where
  server : Settings.ServerSection := {}
  liveness : Settings.LivenessSection := {}
  broadcast : Settings.BroadcastSection := {}
  shutdown : Settings.ShutdownSection := {}
  logging : Settings.LoggingSection := {}
deriving DecidableEq, Repr

/-- The settings when nothing else is said. -/
def Settings.standard : Settings := {}

end BroadcastHub
