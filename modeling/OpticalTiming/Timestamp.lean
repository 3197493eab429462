import OpticalTiming.Error
import OpticalTiming.Time.Utc

/-!
# The timestamp counter

A `TimestampWord` is a value of the free-running 64-bit counter, which travels as two registers of
32 bits: `ofHalves_high_low` says that splitting and joining lose nothing. A `RoundTrip` is the
difference of two counter values that fits 32 bits. `TimestampWord.ofUtc` and
`TimestampWord.toUtc?` convert between counter values and times for a counter that was zero at the
start of 1970.
-/

namespace OpticalTiming

/-- A value of the 64-bit timestamp counter. -/
structure TimestampWord where
  value : UInt64
  deriving Repr, DecidableEq

namespace TimestampWord

/-! ### Halves -/

/-- The upper 32 bits. -/
def high (w : TimestampWord) : UInt32 := UInt32.ofNat (w.value.toNat / UInt32.size)

/-- The lower 32 bits. -/
def low (w : TimestampWord) : UInt32 := UInt32.ofNat (w.value.toNat % UInt32.size)

/-- The word with the given upper and lower 32 bits. -/
def ofHalves (high low : UInt32) : TimestampWord :=
  ⟨UInt64.ofNat (high.toNat * UInt32.size + low.toNat)⟩

@[simp]
theorem toNat_ofHalves (h l : UInt32) :
    (ofHalves h l).value.toNat = h.toNat * UInt32.size + l.toNat := by
  have hh := h.toNat_lt
  have hl := l.toNat_lt
  simp only [ofHalves, UInt32.size, UInt64.toNat_ofNat']
  omega

/-- A word is the join of its halves. -/
theorem ofHalves_high_low (w : TimestampWord) : ofHalves w.high w.low = w := by
  obtain ⟨v⟩ := w
  have hv := v.toNat_lt
  simp only [ofHalves, high, low, mk.injEq, UInt32.size, ← UInt64.toNat_inj, UInt64.toNat_ofNat',
    UInt32.toNat_ofNat']
  omega

/-- The upper half of a join. -/
theorem high_ofHalves (h l : UInt32) : (ofHalves h l).high = h := by
  have hh := h.toNat_lt
  have hl := l.toNat_lt
  simp only [high, toNat_ofHalves, UInt32.size, ← UInt32.toNat_inj, UInt32.toNat_ofNat']
  omega

/-- The lower half of a join. -/
theorem low_ofHalves (h l : UInt32) : (ofHalves h l).low = l := by
  have hl := l.toNat_lt
  simp only [low, toNat_ofHalves, UInt32.size, ← UInt32.toNat_inj, UInt32.toNat_ofNat']
  omega

/-- The text of a word: sixteen hexadecimal digits. -/
def text (w : TimestampWord) : String := Text.hexPadded 16 w.value.toNat

/-! ### Wall-clock time -/

/-- Ticks of a counter of `hz` ticks a second from the start of 1970 to `t`, rounded down; the
nanoseconds of a leap second count as they are. -/
def ticksAt (t : UtcTime) (hz : UInt64) : Nat :=
  t.secs.toNat * hz.toNat + t.nanos * hz.toNat / nanosPerSecond

/-- The value at `t` of a counter of `hz` ticks a second that was zero at the start of 1970. Times
before that and counts beyond 64 bits are refused. -/
def ofUtc (t : UtcTime) (hz : UInt64) : Except Error TimestampWord :=
  if t.secs < 0 then
    .error (.protocol s!"{t.text} is before the counter epoch")
  else if ticksAt t hz < UInt64.size then
    .ok ⟨UInt64.ofNat (ticksAt t hz)⟩
  else
    .error (.protocol s!"{t.text} at {hz} Hz overflows the counter")

/-- The time at which a counter of `hz` ticks a second holds `w`, rounded down to nanoseconds, if
the counter runs and the calendar reaches that far. -/
def toUtc? (w : TimestampWord) (hz : UInt64) : Option UtcTime :=
  if hz = 0 then none
  else
    UtcTime.ofUnix? (w.value.toNat / hz.toNat : Nat)
      (w.value.toNat % hz.toNat * nanosPerSecond / hz.toNat)

end TimestampWord

/-- A measured round trip in ticks of the timestamp counter. -/
structure RoundTrip where
  ticks : UInt32
  deriving Repr, DecidableEq

/-- The round trip from the transmit to the receive timestamp. The difference wraps as the counter
does; one that does not fit 32 bits is refused. -/
def RoundTrip.between (transmit receive : TimestampWord) : Except Error RoundTrip :=
  let ticks := receive.value - transmit.value
  if ticks.toNat < UInt32.size then
    .ok ⟨ticks.toUInt32⟩
  else
    let sent := Text.hex transmit.value.toNat
    let received := Text.hex receive.value.toNat
    .error (.protocol s!"round trip of {ticks} ticks (tx {sent}, rx {received}) exceeds 32 bits")

end OpticalTiming
