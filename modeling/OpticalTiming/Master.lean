import OpticalTiming.Config.Basic
import OpticalTiming.Firmware.CommandChannels
import OpticalTiming.Firmware.Counter
import OpticalTiming.Firmware.DelayLine
import OpticalTiming.Firmware.Echo
import OpticalTiming.Firmware.Receiver
import OpticalTiming.Firmware.Transmitter

/-!
# The timing master

The master owns the blocks that measure and program a link. `Master.measure` is the whole
measurement of one endpoint: its transmitter alone is switched on if the call controls
transmitters, the upstream receiver has to lock if there is one, then the echo is sent. The
transmitter is switched off again after a success and after a failure of the link.
-/

namespace OpticalTiming

/-- The blocks of a timing master. Only firmware with a return path has an upstream receiver. -/
structure Master where
  counter : TimestampCounter
  echo : EchoMonitor
  transmitters : TransmitterControl
  delayLine : DelayLine
  commands : CommandChannels
  upstream : Option UpstreamReceiver
  echoOptions : EchoOptions
  /-- Ticks a second of the timestamp counter. -/
  clockHz : UInt64
  deriving Repr, DecidableEq

namespace Master

/-- The master that a configuration describes, with or without an upstream receiver. -/
def ofConfig (config : DesignConfig) (withUpstream : Bool) : Master where
  counter := { block := ⟨config.registers.timestamp⟩ }
  echo := { block := ⟨config.registers.echo⟩ }
  transmitters := { block := ⟨config.registers.sfp⟩ }
  delayLine := { block := ⟨config.registers.delay⟩ }
  commands := { block := ⟨config.registers.commands⟩, count := config.commandChannelCount }
  upstream :=
    if withUpstream then
      some
        { block := ⟨config.registers.upstream⟩
          options := { timeout := config.lockTimeout, pollInterval := config.pollInterval } }
    else
      none
  echoOptions := { timeout := config.echoTimeout, pollInterval := config.pollInterval }
  clockHz := config.clockHz

/-- The error of a master without an upstream receiver. -/
def noUpstream : Error := .unsupported "upstream endpoint"

/-- Brings the upstream receiver into lock; the result tells whether it locked. -/
def enableUpstream (master : Master) : Procedure Bool :=
  match master.upstream with
  | some receiver => receiver.enable
  | none => throw noUpstream

/-- Sets the timestamp counter from the wall clock. -/
def syncCounter (master : Master) : Procedure TimestampWord :=
  master.counter.sync master.clockHz

/-- Switches every transmitter off and that of `address` on, in one dispatch. -/
def isolate (master : Master) (address : EndpointAddress) : Procedure Unit := do
  master.transmitters.switch .reserved false
  master.transmitters.switch address true
  Procedure.dispatch

/-- Switches the transmitter of `address` off and dispatches. -/
def release (master : Master) (address : EndpointAddress) : Procedure Unit := do
  master.transmitters.switch address false
  Procedure.dispatch

/-- Waits for the upstream receiver to lock, if there is one, and measures the echo. -/
def lockAndEcho (master : Master) (address : EndpointAddress) : Procedure RoundTrip := do
  match master.upstream with
  | none => master.echo.measure master.echoOptions
  | some receiver =>
    if ← receiver.enable then
      master.echo.measure master.echoOptions
    else
      throw (.lockFailure s!"upstream endpoint for {address.text}")

/-- Measures the round trip to `address`. With `controlSfp` its transmitter is the only one that is
on during the measurement, and it is switched off afterwards, also after a failure of the link;
that failure is then the error of the call, whether or not switching off succeeds. -/
def measure (master : Master) (address : EndpointAddress) (controlSfp : Bool) :
    Procedure RoundTrip := do
  Procedure.ofExcept address.checkTarget
  if controlSfp then
    master.isolate address
    match ← (master.lockAndEcho address).attempt with
    | .ok roundTrip =>
      master.release address
      pure roundTrip
    | .error e =>
      if e.isLinkFailure then
        let _ ← (master.release address).attempt
      throw e
  else
    master.lockAndEcho address

end Master

end OpticalTiming
