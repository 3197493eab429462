import OpticalTiming.Config.Basic
import OpticalTiming.Procedure.Block
import OpticalTiming.Procedure.Poll
import OpticalTiming.Timestamp

/-!
# The echo monitor

A strobe sends an echo down the link; a done bit tells that it came back, and four registers hold
the halves of its transmit and receive timestamps.

An `EchoTrip` is one measurement. It goes from `idle` through `requested` and `polling` to `done`
or `timedOut` and can be run once: `EchoTrip.run` on a trip that is not idle asks for nothing.
-/

namespace OpticalTiming

/-- The timing of an echo measurement, in whole milliseconds. -/
structure EchoOptions where
  /-- Time in which the done bit has to appear. -/
  timeout : UInt64 := standardEchoTimeout
  /-- Time between two looks at the done bit. -/
  pollInterval : UInt64 := standardPollInterval
  deriving Repr, DecidableEq

/-- How far an echo measurement has come. -/
inductive EchoState where
  /-- Nothing was sent yet. -/
  | idle
  /-- The strobe was dispatched. -/
  | requested
  /-- The done bit is awaited. -/
  | polling
  /-- The done bit was seen and the timestamps were read. -/
  | done
  /-- The timeout passed without the done bit. -/
  | timedOut
  deriving Repr, DecidableEq

/-- The name of a state. -/
def EchoState.name : EchoState → String
  | idle => "Idle"
  | requested => "Requested"
  | polling => "Polling"
  | done => "Done"
  | timedOut => "TimedOut"

/-- The register block of the echo monitor. -/
structure EchoMonitor where
  block : RegisterBlock
  deriving Repr, DecidableEq

namespace EchoMonitor

/-- Sends the strobe in a dispatch of its own or behind what is queued already. -/
def sendStrobe (monitor : EchoMonitor) : Procedure Unit := do
  monitor.block.write "csr.ctrl.go" 1
  Procedure.dispatch

/-- Whether a status word has the done bit. -/
def isDone (status : UInt32) : Bool := status &&& 1 ≠ 0

/-- Reads the done bit once. -/
def checkDone (monitor : EchoMonitor) : Procedure Bool := do
  let status ← monitor.block.fetch "csr.stat.rx_done"
  pure (isDone status)

/-- Reads both timestamps in one dispatch and takes their difference. -/
def readRoundTrip (monitor : EchoMonitor) : Procedure RoundTrip := do
  let stamps ← monitor.block.snapshot ["csr.tx_h", "csr.tx_l", "csr.rx_h", "csr.rx_l"]
  Procedure.ofExcept do
    let transmit := TimestampWord.ofHalves (← stamps.get "csr.tx_h") (← stamps.get "csr.tx_l")
    let receive := TimestampWord.ofHalves (← stamps.get "csr.rx_h") (← stamps.get "csr.rx_l")
    RoundTrip.between transmit receive

end EchoMonitor

/-- One echo measurement. -/
structure EchoTrip where
  monitor : EchoMonitor
  options : EchoOptions
  state : EchoState := .idle
  /-- The number of looks at the done bit, known once the wait for it has ended by itself. -/
  polls : UInt32 := 0
  deriving Repr, DecidableEq

namespace EchoTrip

/-- The last part of a measurement, after the done bit was seen. -/
def finish (trip : EchoTrip) : Procedure (Except Error RoundTrip × EchoTrip) := do
  match ← trip.monitor.readRoundTrip.attempt with
  | .error e => pure (.error e, trip)
  | .ok roundTrip => pure (.ok roundTrip, { trip with state := .done })

/-- The middle part of a measurement: starts polling the done bit and goes on if it was seen. -/
def awaitDone (trip : EchoTrip) : Procedure (Except Error RoundTrip × EchoTrip) := do
  let trip := { trip with state := .polling }
  let wait := pollUntil trip.options.pollInterval.toNat trip.options.timeout.toNat
    trip.monitor.checkDone
  match ← wait.attempt with
  | .error e => pure (.error e, trip)
  | .ok outcome =>
    let trip := { trip with polls := outcome.attempts }
    if outcome.satisfied then
      trip.finish
    else
      pure (.error (.echoTimeout trip.options.timeout), { trip with state := .timedOut })

/-- Runs a measurement to its end: how it ended, and the trip afterwards. A trip that is not idle is
refused. -/
def run (trip : EchoTrip) : Procedure (Except Error RoundTrip × EchoTrip) := do
  if trip.state = .idle then
    match ← trip.monitor.sendStrobe.attempt with
    | .error e => pure (.error e, trip)
    | .ok () => awaitDone { trip with state := .requested }
  else
    pure (.error (.protocol s!"echo round trip already in state {trip.state.name}"), trip)

end EchoTrip

/-- Sends one echo and measures its round trip. -/
def EchoMonitor.measure (monitor : EchoMonitor) (options : EchoOptions) : Procedure RoundTrip := do
  let (result, _) ← EchoTrip.run { monitor, options }
  Procedure.ofExcept result

end OpticalTiming
