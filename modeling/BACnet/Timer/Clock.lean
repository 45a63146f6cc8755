/-!
# Time

Time is counted in nanoseconds since the start of the clock. The clock has 64 bits and is moved by
hand: nothing in this library waits.
-/

namespace BACnet

/-- The number of nanoseconds in a millisecond. -/
def nanosPerMilli : Nat := 1000000

/-- The span of this many milliseconds, in nanoseconds. -/
def nanosOfMillis (millis : Nat) : Nat := millis * nanosPerMilli

/-- The span of this many seconds and nanoseconds, in nanoseconds. -/
def nanosOfSeconds (seconds nanos : Nat) : Nat := seconds * 1000000000 + nanos

/-- The whole milliseconds of a span of nanoseconds. -/
def millisOfNanos (nanos : Nat) : Nat := nanos / nanosPerMilli

/-- A clock of 64 bits: the nanoseconds since it started. -/
structure Clock where
  nanos : UInt64
  deriving DecidableEq, Repr

namespace Clock

/-- The clock at its start. -/
def start : Clock := ⟨0⟩

/-- The current time. -/
def now (clock : Clock) : Nat := clock.nanos.toNat

/-- The longest span that the clock can count. -/
def maxSpan : Nat := 0xFFFFFFFFFFFFFFFF

/-- A span in the word of the clock; a span that does not fit counts as the longest one. -/
def span (length : Nat) : UInt64 := UInt64.ofNat (min length maxSpan)

/-- Moves the clock on; at the end of its range it starts over. -/
def advance (clock : Clock) (length : Nat) : Clock := ⟨clock.nanos + span length⟩

/-- Moves the clock on by milliseconds. -/
def advanceMillis (clock : Clock) (millis : Nat) : Clock := clock.advance (nanosOfMillis millis)

/-- Moves the clock on to a point in time; the clock never goes back. -/
def moveTo (clock : Clock) (time : Nat) : Clock := ⟨max clock.nanos (span time)⟩

end Clock

end BACnet
