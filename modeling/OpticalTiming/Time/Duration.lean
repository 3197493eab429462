/-!
# Spans of time

A `Duration` is a count of seconds below 2^64 with a part below the second in nanoseconds. It is
turned into whole milliseconds, rounding down, in two ways that differ when the count does not fit
64 bits: `toMillis` stops at the largest number, `storedMillis` keeps the low 64 bits.
-/

namespace OpticalTiming

/-- A span of time. -/
structure Duration where
  secs : Nat
  nanos : Nat
  secs_lt : secs < UInt64.size
  nanos_lt : nanos < 1000000000
  deriving Repr, DecidableEq

namespace Duration

/-- The span of `secs` seconds and `nanos` nanoseconds, which may be more than a second, unless the
seconds do not fit 64 bits. -/
def ofParts? (secs nanos : Nat) : Option Duration :=
  if h : secs + nanos / 1000000000 < UInt64.size then
    some ⟨secs + nanos / 1000000000, nanos % 1000000000, h, Nat.mod_lt _ (by decide)⟩
  else
    none

/-- The span of a whole number of milliseconds. -/
def ofMillis (ms : UInt64) : Duration where
  secs := ms.toNat / 1000
  nanos := ms.toNat % 1000 * 1000000
  secs_lt := Nat.lt_of_le_of_lt (Nat.div_le_self _ _) ms.toNat_lt
  nanos_lt := by omega

/-- Nanoseconds of the whole span. -/
def totalNanos (d : Duration) : Nat := d.secs * 1000000000 + d.nanos

/-- Whole milliseconds of the span, rounded down. -/
def wholeMillis (d : Duration) : Nat := d.secs * 1000 + d.nanos / 1000000

/-- Whole milliseconds, at most 2^64 - 1. -/
def toMillis (d : Duration) : UInt64 := UInt64.ofNat (min d.wholeMillis (UInt64.size - 1))

/-- The low 64 bits of the whole milliseconds: the number that a stored configuration holds. -/
def storedMillis (d : Duration) : UInt64 := UInt64.ofNat d.wholeMillis

end Duration

end OpticalTiming
