import OpticalTiming.Config.Basic
import OpticalTiming.Procedure.Block
import OpticalTiming.Procedure.Poll

/-!
# The upstream receiver

The receiver at the master's end of the return path. It is restarted by its enable register and
has locked when the low four bits of its status read 8. `UpstreamReceiver.enable` restarts it and
waits for the lock.
-/

namespace OpticalTiming

/-- The timing of a wait for a lock, in whole milliseconds. -/
structure LockOptions where
  timeout : UInt64 := standardLockTimeout
  pollInterval : UInt64 := standardPollInterval
  deriving Repr, DecidableEq

/-- The register block of the upstream receiver, with the timing of its lock. -/
structure UpstreamReceiver where
  block : RegisterBlock
  options : LockOptions
  deriving Repr, DecidableEq

namespace UpstreamReceiver

/-- The state of a receiver that has locked. -/
def readyState : UInt32 := 0x8

/-- Whether a status word tells of a lock: only its low four bits count. -/
def isReady (status : UInt32) : Bool := status &&& 0xF = readyState

/-- Reads the status once and tells whether the receiver has locked. -/
def checkReady (receiver : UpstreamReceiver) : Procedure Bool := do
  let status ← receiver.block.fetch "csr.stat.ep_stat"
  pure (isReady status)

/-- Restarts the receiver and waits for it to lock; the result tells whether it did so in time. -/
def enable (receiver : UpstreamReceiver) : Procedure Bool := do
  receiver.block.reset ["csr.ctrl.ep_en"] 0
  receiver.block.write "csr.ctrl.ep_en" 1
  Procedure.dispatch
  let outcome ← pollUntil receiver.options.pollInterval.toNat receiver.options.timeout.toNat
    receiver.checkReady
  pure outcome.satisfied

end UpstreamReceiver

end OpticalTiming
