import OpticalTiming.Command
import OpticalTiming.Procedure.Block

/-!
# Command channels

Each channel has a register to which the code of a command is written. Every pulse of a command is
a dispatch of its own, because the spacing of the pulses is that of the dispatches.
-/

namespace OpticalTiming

/-- The register block of the command generator. -/
structure CommandChannels where
  block : RegisterBlock
  count : UInt32
  deriving Repr, DecidableEq

namespace CommandChannels

/-- The full path of the command register of a channel. -/
def commandPath (channels : CommandChannels) (channel : UInt32) : String :=
  channels.block.path s!"chan{channel}.cmd"

/-- Writes a code to a register the given number of times, each time in a dispatch of its own. -/
def pulses (path : String) (code : UInt32) : (count : Nat) → Procedure Unit
  | 0 => pure ()
  | count + 1 => do
    Procedure.write path code
    Procedure.dispatch
    pulses path code count

/-- Sends a command `count` times on a channel. A channel that the device does not have is
refused. -/
def send (channels : CommandChannels) (command : FixedLengthCommand) (channel count : UInt32) :
    Procedure Unit := do
  if channel < channels.count then
    pulses (channels.commandPath channel) command.code count.toNat
  else
    throw (.invalidChannel channel channels.count)

end CommandChannels

end OpticalTiming
