import OpticalTiming.Firmware.Mux
import OpticalTiming.Master

/-!
# Calibration of single endpoints

A `Calibration` measures the round trip to an endpoint and programs its delays, directly or through
a channel of a multiplexer. It isolates the endpoint itself and asks the master to measure without
touching transmitters, except for a direct measurement, which is the master's own.

A link that fails leaves the transmitter of the endpoint switched off. Other errors leave the
hardware as it is.
-/

namespace OpticalTiming

/-- The error of a design without a multiplexer. -/
def noMux : Error := .unsupported "sfp mux"

/-- What a calibration asks of a timing master. -/
structure LinkControl where
  /-- Queues the switch of the transmitter of an address. -/
  switch : (address : EndpointAddress) → (on : Bool) → Procedure Unit
  /-- Measures the round trip to an address, with or without control of its transmitter. -/
  measure : (address : EndpointAddress) → (controlSfp : Bool) → Procedure RoundTrip
  /-- Programs the delays of an address. -/
  program : EndpointAddress → DelayParameters → Procedure Unit

/-- The capabilities of a master. -/
def Master.linkControl (master : Master) : LinkControl where
  switch := master.transmitters.switch
  measure := master.measure
  program := master.delayLine.program

/-- The tunable parts of a calibration. -/
structure CalibrationSettings where
  /-- Whole milliseconds to settle after selecting a channel for a measurement. -/
  muxSettle : UInt64 := standardMuxSettle
  releasePolicy : ReleasePolicy := .whenMeasured
  deriving Repr, DecidableEq

/-- The settings of a configured design. -/
def CalibrationSettings.ofConfig (config : DesignConfig) : CalibrationSettings where
  muxSettle := config.muxSettle
  releasePolicy := config.releasePolicy

/-- Whether the transmitter of an endpoint is switched off at the end of a call that controlled
it. -/
def ReleasePolicy.applies (policy : ReleasePolicy) (measured viaMux : Bool) : Bool :=
  match policy with
  | whenMeasured => measured && viaMux
  | always => true

/-- The calibration procedures of a design. -/
structure Calibration where
  control : LinkControl
  mux : Option FanoutMux
  settings : CalibrationSettings

namespace Calibration

/-- The multiplexer, if there is one and it has the channel. -/
def muxFor (calibration : Calibration) (channel : MuxChannel) : Except Error FanoutMux :=
  match calibration.mux with
  | none => .error noMux
  | some mux => do
    mux.checkChannel channel
    pure mux

/-- Queues the switches that leave only the transmitter of `address` on. -/
def queueIsolation (calibration : Calibration) (address : EndpointAddress) : Procedure Unit := do
  calibration.control.switch .reserved false
  calibration.control.switch address true

/-- Switches the transmitter of `address` off and dispatches. -/
def release (calibration : Calibration) (address : EndpointAddress) : Procedure Unit := do
  calibration.control.switch address false
  Procedure.dispatch

/-- Isolates `address` and selects `channel` in one dispatch, then lets the receiver settle. The
lock is left to the measurement that follows. -/
def routeThroughMux (calibration : Calibration) (address : EndpointAddress) (controlSfp : Bool)
    (channel : MuxChannel) : Procedure Unit := do
  let mux ← Procedure.ofExcept (calibration.muxFor channel)
  if controlSfp then
    calibration.queueIsolation address
  mux.select channel
  Procedure.wait calibration.settings.muxSettle.toNat

/-- Puts `address` on the link: through a channel if one is given, else by isolating it, if
transmitters are controlled at all. -/
def route (calibration : Calibration) (address : EndpointAddress) (controlSfp : Bool) :
    Option MuxChannel → Procedure Unit
  | some channel => calibration.routeThroughMux address controlSfp channel
  | none => do
    if controlSfp then
      calibration.queueIsolation address
      Procedure.dispatch

/-- Puts `address` on the link and measures. With `controlSfp` a failure of the link is followed by
switching the transmitter off; that failure is the error of the call in any case. -/
def isolateAndMeasure (calibration : Calibration) (address : EndpointAddress) (controlSfp : Bool)
    (channel? : Option MuxChannel) : Procedure RoundTrip := do
  calibration.route address controlSfp channel?
  match ← (calibration.control.measure address false).attempt with
  | .ok roundTrip => pure roundTrip
  | .error e =>
    if controlSfp && e.isLinkFailure then
      let _ ← (calibration.release address).attempt
    throw e

/-- Measures the round trip to `address` without touching its delays. -/
def measure (calibration : Calibration) (address : EndpointAddress) (controlSfp : Bool)
    (channel? : Option MuxChannel) : Procedure RoundTrip := do
  Procedure.ofExcept address.checkTarget
  match channel? with
  | none => calibration.control.measure address controlSfp
  | some _ =>
    let roundTrip ← calibration.isolateAndMeasure address controlSfp channel?
    if controlSfp then
      calibration.release address
    pure roundTrip

/-- Measures the round trip if asked to. -/
def measureIf (calibration : Calibration) (measureRtt : Bool) (address : EndpointAddress)
    (controlSfp : Bool) (channel? : Option MuxChannel) : Procedure (Option RoundTrip) := do
  if measureRtt then
    let roundTrip ← calibration.isolateAndMeasure address controlSfp channel?
    pure (some roundTrip)
  else
    pure none

/-- Refuses a channel that the design does not have. -/
def checkChannel (calibration : Calibration) : Option MuxChannel → Except Error Unit
  | none => .ok ()
  | some channel => do
    let _ ← calibration.muxFor channel

/-- Programs the delays of `address`, after measuring its round trip if asked to; the result is the
measurement. -/
def apply (calibration : Calibration) (address : EndpointAddress) (delay : DelayParameters)
    (measureRtt controlSfp : Bool) (channel? : Option MuxChannel) :
    Procedure (Option RoundTrip) := do
  Procedure.ofExcept address.checkTarget
  Procedure.ofExcept (calibration.checkChannel channel?)
  let roundTrip? ← calibration.measureIf measureRtt address controlSfp channel?
  calibration.control.program address delay
  if controlSfp && calibration.settings.releasePolicy.applies measureRtt channel?.isSome then
    calibration.release address
  pure roundTrip?

/-- Applies a stored calibration, controlling the transmitter of the endpoint. -/
def applyStored (calibration : Calibration) (endpoint : StoredCalibration) (measureRtt : Bool) :
    Procedure (Option RoundTrip) :=
  calibration.apply endpoint.address endpoint.delay measureRtt true endpoint.muxChannel

end Calibration

end OpticalTiming
