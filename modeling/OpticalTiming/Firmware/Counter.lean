import OpticalTiming.Procedure.Block
import OpticalTiming.Timestamp

/-!
# The timestamp counter block

The counter is read and loaded as two halves, both in one dispatch, so that the halves belong
together. `TimestampCounter.sync` loads the value that the wall clock gives.
-/

namespace OpticalTiming

/-- The register block of the free-running counter. -/
structure TimestampCounter where
  block : RegisterBlock
  deriving Repr, DecidableEq

namespace TimestampCounter

/-- Reads both halves of the counter in one dispatch. -/
def read (counter : TimestampCounter) : Procedure TimestampWord := do
  let high ← counter.block.read "ctr.val_h"
  let low ← counter.block.read "ctr.val_l"
  Procedure.dispatch
  let high ← Procedure.value high
  let low ← Procedure.value low
  pure (.ofHalves high low)

/-- Loads both halves of a value in one dispatch. -/
def set (counter : TimestampCounter) (word : TimestampWord) : Procedure Unit := do
  counter.block.write "ctr.set_h" word.high
  counter.block.write "ctr.set_l" word.low
  Procedure.dispatch

/-- Sets a counter of `hz` ticks a second from the wall clock; the result is the value written. -/
def sync (counter : TimestampCounter) (hz : UInt64) : Procedure TimestampWord := do
  let time ← Procedure.wallClock
  let word ← Procedure.ofExcept (TimestampWord.ofUtc time hz)
  counter.set word
  pure word

end TimestampCounter

end OpticalTiming
