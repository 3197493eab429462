import OpticalTiming.Firmware.Mux
import OpticalTiming.Master

/-!
# Scanning the channels of a multiplexer

A `MuxScanner` selects channels and waits for the link behind each of them to lock. A scan goes
through the channels in order; one whose link fails is put down as skipped with the reason, and any
other error ends the scan.
-/

namespace OpticalTiming

/-- A channel that did not come up, and why. -/
structure ChannelFailure where
  channel : MuxChannel
  reason : String
  deriving Repr, DecidableEq

/-- The outcome of a scan; both lists are in the order of the scan. -/
structure ScanReport where
  locked : List MuxChannel := []
  skipped : List ChannelFailure := []
  deriving Repr, DecidableEq

/-- A multiplexer with a way to wait for the link behind the selected channel. -/
structure MuxScanner where
  /-- Waits for the link behind a channel; the result tells whether it locked. -/
  lock : MuxChannel → Procedure Bool
  mux : FanoutMux

namespace MuxScanner

/-- The scanner of a master, which waits for the upstream receiver to lock. -/
def ofMaster (master : Master) (mux : FanoutMux) : MuxScanner where
  lock _ := master.enableUpstream
  mux

/-- Selects a channel and, if asked to, waits for its link to lock. -/
def switchTo (scanner : MuxScanner) (channel : MuxChannel) (waitForLock : Bool) :
    Procedure Unit := do
  scanner.mux.select channel
  if waitForLock then
    unless ← scanner.lock channel do
      throw (.lockFailure s!"mux channel {channel.text}")

/-- Scans `count` channels from `first` on. -/
def scanFrom (scanner : MuxScanner) (first : UInt32) : (count : Nat) → Procedure ScanReport
  | 0 => pure {}
  | count + 1 => do
    let channel : MuxChannel := ⟨first⟩
    match ← (scanner.switchTo channel true).attempt with
    | .ok () =>
      let report ← scanner.scanFrom (first + 1) count
      pure { report with locked := channel :: report.locked }
    | .error e =>
      if e.isLinkFailure then
        let report ← scanner.scanFrom (first + 1) count
        pure { report with skipped := { channel, reason := e.message } :: report.skipped }
      else
        throw e

/-- Scans the first `count` channels. More channels than the multiplexer has are refused. -/
def scan (scanner : MuxScanner) (count : UInt32) : Procedure ScanReport := do
  if scanner.mux.count < count then
    throw (.invalidChannel (count - 1) scanner.mux.count)
  else
    scanner.scanFrom 0 count.toNat

/-- The channels among the first `count` whose links locked. -/
def lockedChannels (scanner : MuxScanner) (count : UInt32) : Procedure (List MuxChannel) := do
  let report ← scanner.scan count
  pure report.locked

end MuxScanner

end OpticalTiming
