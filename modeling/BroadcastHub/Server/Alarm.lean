import BroadcastHub.Numeral.Power
import BroadcastHub.Span

/-!
# Instants and alarms

Time is counted in nanoseconds from the start of the server, and its clock moves
by whole milliseconds.  An alarm rings at the first instant of the clock that is
not before its due time; alarms that ring together do so in the order in which
they were set.
-/

namespace BroadcastHub.Server

/-- A point in time, in nanoseconds from the server's start. -/
abbrev Instant := Nat

namespace Instant

/-- A window that is too long to be added to an instant ends this much later
instead. -/
def horizon : Span := .ofMillis 946080000000

/-- Whether a span is too long to be added to an instant. -/
def isBeyond (span : Span) : Bool :=
  Numeral.twoTo 63 - 1 ≤ span.nanos / Span.perSecond

/-- The instant at the end of a span. -/
def after (now : Instant) (span : Span) : Instant :=
  if isBeyond span then now + horizon.nanos else now + span.nanos

/-- The first whole millisecond that is not before an instant. -/
def tick (instant : Instant) : Instant :=
  (instant + (Span.perMillisecond - 1)) / Span.perMillisecond *
    Span.perMillisecond

/-- The whole milliseconds from one instant to another, negative if the other is
earlier. -/
def millisUntil (now target : Instant) : Int :=
  ((target : Int) - (now : Int)).tdiv Span.perMillisecond

end Instant

/-- A time at which somebody wants to go on. -/
structure Alarm where
  due : Instant
  /-- The number of alarms that were set before. -/
  order : Nat
deriving DecidableEq, Repr, Inhabited

namespace Alarm

def hasRung (alarm : Alarm) (now : Instant) : Bool := alarm.due ≤ now

def ringsBefore (first second : Alarm) : Bool :=
  first.due.tick < second.due.tick ||
    (first.due.tick = second.due.tick && first.order ≤ second.order)

end Alarm

end BroadcastHub.Server
