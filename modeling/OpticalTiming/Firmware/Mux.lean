import OpticalTiming.Address
import OpticalTiming.Procedure.Block

/-!
# The fan-out multiplexer

A multiplexer puts one of its optical paths on the master's link.
-/

namespace OpticalTiming

/-- A multiplexer with `count` channels, numbered from zero. -/
structure FanoutMux where
  block : RegisterBlock
  count : UInt32
  deriving Repr, DecidableEq

namespace FanoutMux

/-- The full path of the register that selects a channel. -/
def selectPath (mux : FanoutMux) : String := mux.block.path "csr.ctrl.mux"

/-- Refuses a channel that the multiplexer does not have. -/
def checkChannel (mux : FanoutMux) (channel : MuxChannel) : Except Error Unit :=
  if channel.index < mux.count then .ok ()
  else .error (.invalidChannel channel.index mux.count)

/-- Selects a channel and dispatches. -/
def select (mux : FanoutMux) (channel : MuxChannel) : Procedure Unit := do
  Procedure.ofExcept (mux.checkChannel channel)
  mux.block.write "csr.ctrl.mux" channel.index
  Procedure.dispatch

end FanoutMux

end OpticalTiming
