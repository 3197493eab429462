import OpticalTiming.Bus.Basic

/-!
# Views of a register space

What a test bench asks of a register space after a run: the journal in the order of the accesses,
the writes and reads of one register, and a one-line summary.
-/

namespace OpticalTiming.Bus

/-- Everything committed so far, in order. -/
def journal (bus : Bus) : List Access := bus.log.reverse

/-- What a register space committed after the journal had `length` entries, in order. -/
def journalFrom (bus : Bus) (length : Nat) : List Access := bus.journal.drop length

/-- The content of a register, if it was ever stored. -/
def register? (bus : Bus) (path : String) : Option UInt32 := bus.registers.get? path

/-- The values written to a register, in order. -/
def writesTo (bus : Bus) (path : String) : List UInt32 :=
  (bus.journal.filter fun a => a.kind = .write && a.path = path).map Access.value

/-- The number of committed reads of a register. -/
def readsOf (bus : Bus) (path : String) : Nat :=
  bus.log.countP fun a => a.kind = .read && a.path = path

/-- All committed writes with their paths, in order. -/
def writeLog (bus : Bus) : List (String × UInt32) :=
  (bus.journal.filter fun a => a.kind = .write).map fun a => (a.path, a.value)

/-- The number of queued accesses. -/
def pending (bus : Bus) : Nat := bus.queue.length

/-- One line with the sizes of a register space. -/
def summary (bus : Bus) : String :=
  "MemoryBus \x7b registers: " ++ toString bus.registers.size ++
    ", queued: " ++ toString bus.pending ++
    ", dispatches: " ++ toString bus.dispatches ++ " \x7d"

end OpticalTiming.Bus
