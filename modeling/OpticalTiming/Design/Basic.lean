import OpticalTiming.Calibration
import OpticalTiming.Scan

/-!
# Timing designs

A `Design` is a master, a multiplexer if the firmware has one, and the configuration that both came
from. `Design.configure` brings it to its configured state.
-/

namespace OpticalTiming

/-- One configured timing design. -/
structure Design where
  config : DesignConfig
  master : Master
  mux : Option FanoutMux
  deriving Repr, DecidableEq

namespace Design

/-- The family that the design was configured for. -/
def family (design : Design) : String := design.config.family

/-- The calibration procedures of the design, with the given settings. -/
def calibrationWith (design : Design) (settings : CalibrationSettings) : Calibration where
  control := design.master.linkControl
  mux := design.mux
  settings

/-- The calibration procedures of the design, with its configured settings. -/
def calibration (design : Design) : Calibration :=
  design.calibrationWith (.ofConfig design.config)

/-- The scanner of the design; one without a multiplexer is refused. -/
def scanner (design : Design) : Except Error MuxScanner :=
  match design.mux with
  | none => .error noMux
  | some mux => .ok (.ofMaster design.master mux)

/-- Scans every channel of the multiplexer. -/
def scanAll (design : Design) : Procedure ScanReport := do
  let scanner ← Procedure.ofExcept design.scanner
  scanner.scan scanner.mux.count

/-- Selects a channel of the multiplexer and, if asked to, waits for its link to lock. -/
def switchMux (design : Design) (channel : MuxChannel) (waitForLock : Bool) : Procedure Unit := do
  let scanner ← Procedure.ofExcept design.scanner
  scanner.switchTo channel waitForLock

/-- Applies the stored calibrations of endpoints in order, without measuring. -/
def applyAll (calibration : Calibration) : List StoredCalibration → Procedure Unit
  | [] => pure ()
  | endpoint :: rest => do
    let _ ← calibration.applyStored endpoint false
    applyAll calibration rest

/-- Sets the counter from the wall clock, then programs the delays of every configured endpoint; the
result is the counter value written. -/
def configure (design : Design) : Procedure TimestampWord := do
  let word ← design.master.syncCounter
  applyAll design.calibration design.config.endpoints
  pure word

end Design

end OpticalTiming
