import OpticalTiming.Procedure.Basic

/-!
# Polling

`pollUntil` looks for a condition again and again, one interval apart, until it holds or the
timeout has passed. Each round waits first and then checks, so the first check comes one interval
after the start; the timeout is compared after a check that did not hold. Intervals and timeouts are
whole numbers of milliseconds.
-/

namespace OpticalTiming

/-- How a poll ended. -/
structure PollOutcome where
  /-- Whether the condition was seen to hold. -/
  satisfied : Bool
  /-- How often the condition was checked, modulo 2^32. -/
  attempts : UInt32
  deriving Repr, DecidableEq

/-- The rounds of a poll that began at `start`, at most `rounds` of them, after `attempts` earlier
checks. -/
def pollRounds (interval timeout start : Nat) (check : Procedure Bool) :
    (rounds : Nat) → (attempts : UInt32) → Procedure PollOutcome
  | 0, attempts => pure { satisfied := false, attempts }
  | rounds + 1, attempts => do
    Procedure.wait interval
    if ← check then
      pure { satisfied := true, attempts := attempts + 1 }
    else
      let time ← Procedure.now
      if start + timeout ≤ time then
        pure { satisfied := false, attempts := attempts + 1 }
      else
        pollRounds interval timeout start check rounds (attempts + 1)

/-- A bound on the rounds of a poll. With an interval of at least a millisecond every round takes
`waitLength interval`, and the timeout has passed after `timeout / waitLength interval + 1` of them.
With none the clock stands still, and only the check can end the poll; the count of checks then has
come round after 2^32 of them. -/
def pollBound (interval timeout : Nat) : Nat :=
  if interval = 0 then UInt32.size else timeout / waitLength interval + 1

/-- Checks a condition every `interval` whole milliseconds until it holds or `timeout` whole
milliseconds have passed. An error of the check ends the poll. -/
def pollUntil (interval timeout : Nat) (check : Procedure Bool) : Procedure PollOutcome := do
  let start ← Procedure.now
  pollRounds interval timeout start check (pollBound interval timeout) 0

end OpticalTiming
