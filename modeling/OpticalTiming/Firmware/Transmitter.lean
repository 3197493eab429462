import OpticalTiming.Address
import OpticalTiming.Procedure.Block

/-!
# Optical transmitters

One control register switches the transmitters of all endpoints: its word has the address in the
low 16 bits and, above them, the bit that switches the transmitter on. Switching only queues the
write, so that it can be ordered against other accesses of the same dispatch.
-/

namespace OpticalTiming

/-- The register block that controls the transmitters. -/
structure TransmitterControl where
  block : RegisterBlock
  deriving Repr, DecidableEq

namespace TransmitterControl

/-- The bit of the control word that switches a transmitter on. -/
def enableBit : UInt32 := 0x10000

/-- The control word that switches the transmitter of an address on or off. -/
def controlWord (address : EndpointAddress) (on : Bool) : UInt32 :=
  address.value ||| (if on then enableBit else 0)

/-- The full path of the control register. -/
def controlPath (control : TransmitterControl) : String := control.block.path "csr.ctrl.tx"

/-- Queues the write that switches the transmitter of an address on or off. An address that does
not fit the field is refused. -/
def switch (control : TransmitterControl) (address : EndpointAddress) (on : Bool) :
    Procedure Unit := do
  Procedure.ofExcept address.checkField
  control.block.write "csr.ctrl.tx" (controlWord address on)

end TransmitterControl

end OpticalTiming
