import OpticalTiming.Bus.Journal
import OpticalTiming.Time.Utc

/-!
# The bench: a register space in time

A `Bench` is all that a procedure can act on: a register space, a clock in whole milliseconds that
stands still except during waits, a cancellation token, and the reading of the wall clock.

`Bench.wait` is the rule of waiting. On a cancelled token a wait ends at once with `cancelled`; a
wait that is over before the token's deadline, or at the same time, moves the clock to its end; any
other wait ends at the deadline, with the token cancelled. The timer of the bench has a longest
wait, `longestWait`, and a wait that asks for more is over by then.
-/

namespace OpticalTiming

/-- A token with which a caller cancels an operation. -/
structure Cancellation where
  isCancelled : Bool := false
  /-- The clock reading at which the token is cancelled. -/
  deadline : Option Nat := none
  /-- How many more dispatches succeed until the token is cancelled; a count of zero never runs
  out. -/
  dispatchesLeft : Option Nat := none
  deriving Repr, DecidableEq

namespace Cancellation

/-- The token after a successful dispatch. -/
def afterDispatch (token : Cancellation) : Cancellation :=
  match token.dispatchesLeft with
  | some 1 => { token with isCancelled := true, dispatchesLeft := none }
  | some (n + 2) => { token with dispatchesLeft := some (n + 1) }
  | _ => token

/-- The token with its deadline and its dispatch count dropped. -/
def disarm (token : Cancellation) : Cancellation :=
  { token with deadline := none, dispatchesLeft := none }

end Cancellation

/-- The longest time that a single wait takes: thirty years of 365 days, in milliseconds. -/
def longestWait : Nat := 30 * 365 * 86400 * 1000

/-- The milliseconds that a wait of `ms` takes if nothing cancels it. -/
def waitLength (ms : Nat) : Nat := min ms longestWait

/-- A wait up to the longest one takes as long as it says. -/
theorem waitLength_of_le {ms : Nat} (h : ms ≤ longestWait) : waitLength ms = ms :=
  Nat.min_eq_left h

/-- A wait never takes longer than it says. -/
theorem waitLength_le (ms : Nat) : waitLength ms ≤ ms := Nat.min_le_left ms longestWait

/-- A wait that is not empty takes time, however long it asks for. -/
theorem waitLength_pos {ms : Nat} (h : 0 < ms) : 0 < waitLength ms :=
  Nat.lt_min.mpr ⟨h, by decide⟩

/-- A register space with clock, cancellation token and wall clock. -/
structure Bench where
  bus : Bus := {}
  /-- Milliseconds since the bench was set up. -/
  clock : Nat := 0
  token : Cancellation := {}
  /-- The reading of the wall clock. -/
  wallClock : UtcTime

namespace Bench

/-- Dispatches the queue at the present time. -/
def dispatch (bench : Bench) : Except Error Unit × Bench :=
  match bench.bus.dispatch bench.clock with
  | (.ok (), bus) => (.ok (), { bench with bus, token := bench.token.afterDispatch })
  | (.error e, bus) => (.error e, { bench with bus })

/-- The bench with its token cancelled, at the deadline or now if that has passed. -/
def cancelAt (bench : Bench) (deadline : Nat) : Bench :=
  { bench with
    clock := max bench.clock deadline
    token := { bench.token with isCancelled := true } }

/-- Waits for `ms` milliseconds, at most `longestWait`, unless the token is cancelled first. -/
def wait (bench : Bench) (ms : Nat) : Except Error Unit × Bench :=
  if bench.token.isCancelled then (.error .cancelled, bench)
  else if ms = 0 then (.ok (), bench)
  else
    match bench.token.deadline with
    | none => (.ok (), { bench with clock := bench.clock + waitLength ms })
    | some deadline =>
      if deadline < bench.clock + waitLength ms then (.error .cancelled, bench.cancelAt deadline)
      else (.ok (), { bench with clock := bench.clock + waitLength ms })

end Bench

end OpticalTiming
