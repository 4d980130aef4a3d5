import BroadcastHub.Numeral.Power

/-!
# Spans of time

A span is a whole number of nanoseconds.  Its written form takes the largest of
the units second, millisecond, microsecond and nanosecond that fits into it at
least once, and writes the exact fraction without trailing zeros: `2s`, `1.5ms`,
`0ns`.
-/

namespace BroadcastHub

/-- A length of time. -/
structure Span where
  /-- The length in nanoseconds. -/
  nanos : Nat
deriving DecidableEq, Repr, Inhabited

namespace Span

/-- Nanoseconds in a millisecond, the grain of the clock that timers follow. -/
def perMillisecond : Nat := 1000000

def perSecond : Nat := 1000000000

def ofMillis (count : Nat) : Span := ⟨count * perMillisecond⟩

/-- Whole seconds and further nanoseconds. -/
def ofParts (seconds nanos : Nat) : Span := ⟨seconds * perSecond + nanos⟩

/-- The longest span that a 64-bit count of seconds can hold. -/
def longest : Span := ofParts (Numeral.twoTo 64 - 1) 999999999

/-- The milliseconds that are over before the span is. -/
def wholeMillis (span : Span) : Nat := span.nanos / perMillisecond

/-- The size in nanoseconds and the name of the unit in which a span is
written. -/
def writtenUnit (span : Span) : Nat × String :=
  if perSecond ≤ span.nanos then (perSecond, "s")
  else if perMillisecond ≤ span.nanos then (perMillisecond, "ms")
  else if 1000 ≤ span.nanos then (1000, "µs")
  else (1, "ns")

/-- The decimal digits of `part / whole`, a fraction below one whose denominator
is a power of ten.  They end with the last one that is not zero. -/
def fractionDigits (part whole : Nat) : List Char :=
  if part = 0 ∨ whole < 10 then []
  else Nat.digitChar (part * 10 / whole) ::
    fractionDigits (part % (whole / 10)) (whole / 10)
termination_by whole

/-- The span in its written unit. -/
def text (span : Span) : String :=
  let (size, name) := span.writtenUnit
  let whole := Nat.repr (span.nanos / size)
  match fractionDigits (span.nanos % size) size with
  | [] => whole ++ name
  | digits => whole ++ "." ++ String.ofList digits ++ name

end Span

end BroadcastHub
