import OpticalTiming.Address
import OpticalTiming.Procedure.Block

/-!
# Delay lines

The delays of an endpoint are programmed by six writes in one dispatch: its address, the three
delays, and then the two strobes that make the device take them over.
-/

namespace OpticalTiming

/-- The register block that programs delay lines. -/
structure DelayLine where
  block : RegisterBlock
  deriving Repr, DecidableEq

namespace DelayLine

/-- The writes that program the delays of an endpoint, by leaf and in order. -/
def accesses (address : EndpointAddress) (delay : DelayParameters) : List (String × UInt32) :=
  [("csr.ctrl.addr", address.value), ("csr.ctrl.cdel", delay.coarse),
    ("csr.ctrl.fdel", delay.fine), ("csr.ctrl.pdel", delay.phase),
    ("csr.ctrl.update", 1), ("csr.ctrl.go", 1)]

/-- Programs the delays of an endpoint in one dispatch. -/
def program (line : DelayLine) (address : EndpointAddress) (delay : DelayParameters) :
    Procedure Unit := do
  Procedure.ofExcept address.checkTarget
  (accesses address delay).forM fun (leaf, value) => line.block.write leaf value
  Procedure.dispatch

end DelayLine

end OpticalTiming
