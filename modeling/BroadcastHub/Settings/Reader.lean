import BroadcastHub.Numeral.Power
import BroadcastHub.Settings.Basic
import BroadcastHub.Settings.Misfit

/-!
# Settings as JSON values

Settings are written as an object of five objects.  They are read from an
object, whose members may be missing and may have names that mean nothing, or
from an array of the entries in their order, which may be too short.  The first
misfit counts: members are looked at in the order of their keys.
-/

namespace BroadcastHub.Settings

open Json (Value)

/-- One entry of a section: its key, and how its value changes the section. -/
structure Entry (Section : Type) where
  key : String
  read : Value → Section → Except Misfit Section

/-- Reads the members of an object one after the other. -/
def readMembers {Section : Type} (entries : List (Entry Section)) :
    (members : List (String × Value)) → Section → Except Misfit Section
  | [], current => .ok current
  | (key, value) :: rest, current =>
      match entries.find? fun entry => entry.key = key with
      | none => readMembers entries rest current
      | some entry => do readMembers entries rest (← entry.read value current)

/-- Reads the elements of an array as the entries in their order. -/
def readElements {Section : Type} :
    (entries : List (Entry Section)) → (elements : List Value) → Section →
      Except Misfit Section
  | entry :: entries, value :: rest, current => do
    readElements entries rest (← entry.read value current)
  | _, _, current => .ok current

/-- Reads a section from an object or an array. -/
def readSection
    {Section : Type} (shape : Shape) (entries : List (Entry Section))
    (standard : Section) : Value → Except Misfit Section
  | .object members => readMembers entries members standard
  | .array elements => do
    let result ← readElements entries elements standard
    if entries.length < elements.length then .error (.tooLong elements.length)
      else .ok result
  | value => .error (.wrongType value shape)

def readText : Value → Except Misfit String
  | .string text => .ok text
  | value => .error (.wrongType value .text)

def readBool : Value → Except Misfit Bool
  | .bool value => .ok value
  | value => .error (.wrongType value .boolean)

def readBelow (bound : Nat) (shape : Shape) : Value → Except Misfit Nat
  | .number (.integer value) =>
      if 0 ≤ value ∧
        value < bound then .ok value.toNat else .error (.outOfRange value shape)
  | value => .error (.wrongType value shape)

def readPort (value : Value) : Except Misfit UInt16 := do
  return UInt16.ofNat (← readBelow (Numeral.twoTo 16) .port value)

def readSize (value : Value) : Except Misfit UInt64 := do
  return UInt64.ofNat (← readBelow (Numeral.twoTo 64) .size value)

def readCount (value : Value) : Except Misfit UInt64 := do
  return UInt64.ofNat (← readBelow (Numeral.twoTo 64) .count value)

def ServerSection.entries : List (Entry ServerSection) :=
  [⟨"host",
    fun value current => do return { current with host := ← readText value }⟩,
    ⟨"port",
      fun value current => do return { current with port := ← readPort value }⟩,
    ⟨"maxConnections",
      fun value current => do return { current with
        maxConnections := ← readSize value }⟩,
    ⟨"maxMessageSize",
      fun value current => do return { current with
        maxMessageSize := ← readSize value }⟩]

def LivenessSection.entries : List (Entry LivenessSection) :=
  [⟨"heartbeatTimeoutMs",
      fun value current => do return { current with
        heartbeatTimeout := ← readCount value }⟩,
    ⟨"pongWriteTimeoutMs",
      fun value current => do return { current with
        pongWriteTimeout := ← readCount value }⟩,
    ⟨"pongJitterMs",
      fun value current => do return { current with
        pongJitter := ← readCount value }⟩]

def BroadcastSection.entries : List (Entry BroadcastSection) :=
  [⟨"writeTimeoutMs",
    fun value current => do return { current with
      writeTimeout := ← readCount value }⟩]

def ShutdownSection.entries : List (Entry ShutdownSection) :=
  [⟨"drainTimeoutMs",
    fun value current => do return { current with
      drainTimeout := ← readCount value }⟩]

def LoggingSection.entries : List (Entry LoggingSection) :=
  [⟨"level",
    fun value current => do return { current with level := ← readText value }⟩,
    ⟨"json",
      fun value current => do return { current with json := ← readBool value }⟩]

/-- The five sections. -/
def entries : List (Entry Settings) :=
  [⟨"server", fun value current => do
      return { current with
        server := ← readSection .server ServerSection.entries {} value }⟩,
    ⟨"liveness", fun value current => do
      return { current with
        liveness := ← readSection .liveness LivenessSection.entries {} value }⟩,
    ⟨"broadcast", fun value current => do
      return { current with
        broadcast :=
          ← readSection .broadcast BroadcastSection.entries {} value }⟩,
    ⟨"shutdown", fun value current => do
      return { current with
        shutdown := ← readSection .shutdown ShutdownSection.entries {} value }⟩,
    ⟨"logging", fun value current => do
      return { current with
        logging := ← readSection .logging LoggingSection.entries {} value }⟩]

/-- Reads settings; what is missing keeps its standard value. -/
def ofValue (value : Value) : Except Misfit Settings :=
  readSection .settings entries standard value

/-- Settings as an object of five objects. -/
def toValue (settings : Settings) : Value :=
  .object
    [("broadcast", .object
      [("writeTimeoutMs", .ofNat settings.broadcast.writeTimeout.toNat)]),
      ("liveness", .object
        [("heartbeatTimeoutMs",
          .ofNat settings.liveness.heartbeatTimeout.toNat),
          ("pongJitterMs", .ofNat settings.liveness.pongJitter.toNat),
          ("pongWriteTimeoutMs",
            .ofNat settings.liveness.pongWriteTimeout.toNat)]),
      ("logging", .object
        [("json", .bool settings.logging.json),
          ("level", .string settings.logging.level)]),
      ("server", .object
        [("host", .string settings.server.host),
          ("maxConnections", .ofNat settings.server.maxConnections.toNat),
          ("maxMessageSize", .ofNat settings.server.maxMessageSize.toNat),
          ("port", .ofNat settings.server.port.toNat)]),
      ("shutdown", .object
        [("drainTimeoutMs", .ofNat settings.shutdown.drainTimeout.toNat)])]

end BroadcastHub.Settings
