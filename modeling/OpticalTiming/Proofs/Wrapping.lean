import OpticalTiming.Proofs.Faulting
import OpticalTiming.Proofs.Restarting
import OpticalTiming.Proofs.Timing

/-!
# How far the count of checks goes

A poll counts its checks in 32 bits. Each check is one dispatch, so `Procedure.checks` has their
number whatever becomes of them. A round that goes on makes one check and leaves one less of the
limit (`issues_of_next`), and by induction on the rounds no bench makes a poll check more often than
its limit (`counted_pollRounds`). A device that never answers takes it there
(`exists_run_of_refused`).

A configuration may ask for more checks than 32 bits can count, since its timeouts are compared with
the interval by their order only. `countsChecks_of_check` says which configurations those are, and
what their polls report: the number of checks modulo 2^32.
-/

namespace OpticalTiming

open Procedure

/-! ### The checks of a poll -/

namespace Procedure

variable {interval timeout start rounds : Nat} {attempts : UInt32} {check : Procedure Bool}
  {bench waited checked : Bench}

/-- How often a wait checks its register: every check is one dispatch (`issues_check`), granted or
not. -/
def checks (p : Procedure PollOutcome) (bench : Bench) : Nat := (p.issues bench).length

/-- A poll makes no check in a round whose wait is refused. -/
theorem issues_of_refused {e : Error} {after : Bench}
    (hwait : (wait interval).run bench = (.error e, after)) :
    (pollRounds interval timeout start check (rounds + 1) attempts).issues bench = [] := by
  rw [pollRounds, issues_bind_of_error hwait, issues_wait]

/-- It makes the check of a round that ends it. -/
theorem issues_of_ended {result : Except Error Bool}
    (hwait : (wait interval).run bench = (.ok (), waited))
    (hlook : check.run waited = (result, checked))
    (htime : result = .ok false → start + timeout ≤ checked.clock) :
    (pollRounds interval timeout start check (rounds + 1) attempts).issues bench =
      check.issues waited := by
  rw [pollRounds, issues_bind_of_ok hwait, issues_wait, List.nil_append]
  cases result with
  | error e => exact issues_bind_of_error hlook _
  | ok holds =>
    rw [issues_bind_of_ok hlook]
    cases holds with
    | true => exact List.append_nil _
    | false =>
      have hnow : now.run checked = (.ok checked.clock, checked) := run_now checked
      rw [if_neg Bool.false_ne_true, issues_bind_of_ok hnow, if_pos (htime rfl)]
      exact List.append_nil _

/-- It makes the check of a round that leads to another one before those of the rounds to come. -/
theorem issues_of_next (hwait : (wait interval).run bench = (.ok (), waited))
    (hlook : check.run waited = (.ok false, checked))
    (htime : ¬ start + timeout ≤ checked.clock) :
    (pollRounds interval timeout start check (rounds + 1) attempts).issues bench =
      check.issues waited ++
        (pollRounds interval timeout start check rounds (attempts + 1)).issues checked := by
  have hnow : now.run checked = (.ok checked.clock, checked) := run_now checked
  rw [pollRounds, issues_bind_of_ok hwait, issues_wait, List.nil_append, issues_bind_of_ok hlook,
    if_neg Bool.false_ne_true, issues_bind_of_ok hnow, if_neg htime]
  rfl

end Procedure

/-- What is known of a poll that began with a count of attempts and made the given number of
checks. -/
structure Counted (limit : Nat) (attempts : UInt32) (checks : Nat)
    (result : Except Error PollOutcome) : Prop where
  le : checks ≤ limit
  attempts_eq : ∀ outcome, result = .ok outcome →
    outcome.attempts = attempts + .ofNat checks

namespace Counted

variable {limit checks : Nat} {attempts : UInt32} {result : Except Error PollOutcome}

/-- A poll that is broken off before its first check. -/
theorem refused (limit : Nat) (attempts : UInt32) (e : Error) :
    Counted limit attempts 0 (.error e) :=
  ⟨Nat.zero_le limit, by rintro outcome ⟨⟩⟩

/-- A poll that has no rounds left. -/
theorem nothing (limit : Nat) (attempts : UInt32) :
    Counted limit attempts 0 (.ok { satisfied := false, attempts }) := by
  refine ⟨Nat.zero_le limit, ?_⟩
  rintro outcome ⟨⟩
  exact (UInt32.add_zero attempts).symm

/-- A poll that ends with its first check. -/
theorem once (hlimit : 0 < limit) (attempts : UInt32) (result : Except Error Bool) :
    Counted limit attempts 1
      (result.map fun satisfied => { satisfied, attempts := attempts + 1 }) := by
  refine ⟨hlimit, fun outcome houtcome => ?_⟩
  cases result with
  | error e => cases houtcome
  | ok satisfied =>
    cases houtcome
    rfl

/-- A poll whose first check is not its last. -/
theorem succ (h : Counted limit (attempts + 1) checks result) :
    Counted (limit + 1) attempts (1 + checks) result := by
  refine ⟨by have := h.le; omega, fun outcome houtcome => ?_⟩
  rw [h.attempts_eq outcome houtcome, UInt32.ofNat_add, UInt32.add_assoc]
  rfl

end Counted

section

variable (block : RegisterBlock) (leaf : String) (accept : UInt32 → Bool) {interval : Nat}

/-- On any bench the rounds of a poll after `k` checks make no more checks than the limit leaves,
and count them. -/
theorem counted_pollRounds (timeout : Nat) (hinterval : 0 < interval) {start rounds k : Nat}
    (attempts : UInt32) {bench : Bench} (hclock : bench.clock = start + k * waitLength interval)
    (hk : k < pollLimit interval timeout) :
    let poll := pollRounds interval timeout start (block.check leaf accept) rounds attempts
    Counted (pollLimit interval timeout - k) attempts (poll.checks bench) (poll.run bench).1 := by
  intro poll
  have hone : ∀ waited, ((block.check leaf accept).issues waited).length = 1 :=
    fun waited => congrArg List.length (issues_check block leaf accept waited)
  induction rounds generalizing k attempts bench with
  | zero => exact .nothing _ attempts
  | succ rounds ih =>
    cases pollRound interval timeout start (block.check leaf accept) attempts bench with
    | refused e after wait run commits =>
      rw [checks, issues_of_refused wait, run rounds]
      exact .refused _ attempts e
    | ended waited checked result wait look time run commits =>
      rw [checks, issues_of_ended wait look time, hone, run rounds]
      exact .once (Nat.sub_pos_of_lt hk) attempts result
    | next waited checked wait look time run commits =>
      -- The clock tells how many checks there have been, and thereby how many are left.
      have hlater : checked.clock = start + (k + 1) * waitLength interval := by
        rw [clock_of_round (instant_check block leaf accept) wait look, hclock, Nat.succ_mul,
          Nat.add_assoc]
      have hmore := lt_pollLimit_of_not_le hinterval hlater time
      have hlimit : pollLimit interval timeout - k =
          pollLimit interval timeout - (k + 1) + 1 := by omega
      rw [checks, issues_of_next wait look time, List.length_append, hone, run rounds, hlimit]
      exact (ih (attempts + 1) hlater hmore).succ

theorem counted_pollUntil (timeout : Nat) (hinterval : 0 < interval) (bench : Bench) :
    let poll := pollUntil interval timeout (block.check leaf accept)
    Counted (pollLimit interval timeout) 0 (poll.checks bench) (poll.run bench).1 := by
  intro poll
  have hnow : now.run bench = (.ok bench.clock, bench) := run_now bench
  have hclock : bench.clock = bench.clock + 0 * waitLength interval := by
    rw [Nat.zero_mul, Nat.add_zero]
  have hrun : poll.run bench = _ := run_bind_of_ok hnow _
  have hissues : poll.issues bench = _ := issues_bind_of_ok hnow _
  rw [checks, hissues, hrun]
  exact counted_pollRounds block leaf accept timeout hinterval 0 hclock (Nat.le_max_left 1 _)

/-- A device that shows nothing acceptable takes a poll to its limit. -/
theorem exists_run_of_refused (timeout : Nat) (hinterval : 0 < interval) {bench : Bench}
    (h : bench.Calm)
    (hrefused : ∀ index, accept (bench.bus.upcoming (block.path leaf) index) = false) :
    let poll := pollUntil interval timeout (block.check leaf accept)
    poll.checks bench = pollLimit interval timeout ∧ ∃ after, poll.run bench =
      (.ok { satisfied := false, attempts := .ofNat (pollLimit interval timeout) }, after) := by
  intro poll
  obtain ⟨values, outcome, after, hrun, hpolled⟩ :=
    run_pollUntil_check block leaf accept timeout hinterval h
  have hrun : poll.run bench = (.ok outcome, after) := hrun
  have hvalues : ∀ value ∈ values, accept value = false := by
    intro value hvalue
    rw [hpolled.values_eq_upcoming] at hvalue
    obtain ⟨index, -, rfl⟩ := List.mem_map.mp hvalue
    exact hrefused index
  have hunsatisfied : outcome.satisfied = false := by
    refine Bool.eq_false_iff.mpr fun hfound => ?_
    obtain ⟨value, hvalue, haccepted⟩ := hpolled.looked.found_iff_exists.mp hfound
    rw [hvalues value hvalue] at haccepted
    cases haccepted
  have hlength : values.length = pollLimit interval timeout := by
    rw [hpolled.looked.length_eq, List.findIdx?_eq_none_iff.mpr hvalues]
  have hchecks : poll.checks bench = pollLimit interval timeout := by
    -- Without a failure to come, the dispatches that are issued are those that are counted.
    have hissued := dispatches_run poll h.healthy.fault
    rw [hrun, hpolled.dispatches, hlength] at hissued
    exact (Nat.add_left_cancel hissued).symm
  have hattempts : outcome.attempts = .ofNat (pollLimit interval timeout) := by
    have hcounted := counted_pollUntil block leaf accept timeout hinterval bench
    rw [hcounted.attempts_eq outcome (congrArg Prod.fst hrun), UInt32.zero_add]
    exact congrArg _ hchecks
  refine ⟨hchecks, after, hrun.trans ?_⟩
  rw [← hunsatisfied, ← hattempts]

end

/-! ### Waits of a configured master -/

/-- What is known of the checks of a wait that makes one in every `step` milliseconds. -/
structure CountsChecks (wait : Procedure PollOutcome) (step timeout : Nat) : Prop where
  /-- On any bench there are no more checks than steps that it takes to pass the timeout. -/
  checks_le : ∀ bench, wait.checks bench ≤ max 1 ((timeout + step - 1) / step)
  /-- A wait that ends by itself reports its checks modulo 2^32. -/
  attempts_eq : ∀ bench outcome after, wait.run bench = (.ok outcome, after) →
    outcome.attempts.toNat = wait.checks bench % UInt32.size
  /-- A device that never answers is checked as often as that before the wait gives up. -/
  unanswered : wait.checks Design.silent = max 1 ((timeout + step - 1) / step) ∧
    ∃ outcome after, wait.run Design.silent = (.ok outcome, after) ∧ outcome.satisfied = false
  /-- The checks can be counted in 32 bits, whatever the device does, exactly if the timeout is no
  longer than the greatest count of steps. -/
  fits_iff : (∀ bench, wait.checks bench < UInt32.size) ↔ timeout ≤ (UInt32.size - 1) * step

theorem Design.calm_silent : Design.silent.Calm := ⟨⟨rfl, rfl, rfl⟩, rfl, rfl, Or.inl rfl⟩

/-- A wait for a register whose content counts for nothing as long as it is zero. -/
theorem countsChecks_pollUntil (block : RegisterBlock) (leaf : String) {accept : UInt32 → Bool}
    (hzero : accept 0 = false) {interval : Nat} (hinterval : 0 < interval) (timeout : Nat) :
    CountsChecks (pollUntil interval timeout (block.check leaf accept)) (waitLength interval)
      timeout := by
  have hcounted := counted_pollUntil block leaf accept timeout hinterval
  obtain ⟨hchecks, after, hrun⟩ := exists_run_of_refused block leaf accept timeout hinterval
    Design.calm_silent fun _ => hzero
  refine ⟨fun bench => (hcounted bench).le, ?_, ⟨hchecks, _, after, hrun, rfl⟩, ?_⟩
  · intro bench outcome after hended
    have hattempts := (hcounted bench).attempts_eq outcome (congrArg Prod.fst hended)
    rw [hattempts, UInt32.zero_add, UInt32.toNat_ofNat']
  · have hlimit : pollLimit interval timeout ≤ UInt32.size - 1 ↔
        timeout ≤ (UInt32.size - 1) * waitLength interval :=
      @pollLimit_le_iff interval timeout (UInt32.size - 2) hinterval
    rw [← hlimit]
    constructor
    · intro hfits
      have hsilent := hfits Design.silent
      rw [hchecks] at hsilent
      exact Nat.le_pred_of_lt hsilent
    · intro hle bench
      have hbound := Nat.le_trans (hcounted bench).le hle
      exact Nat.lt_of_le_of_lt hbound (by decide)

namespace DesignConfig

/-- With a configuration that can be used, the checks of both waits of a master are bounded. They
can be counted if the timeout is less than 2^32 steps long, and otherwise the count wraps around on
a device that never answers. -/
theorem countsChecks_of_check {config : DesignConfig} (h : config.check = .ok ())
    (withUpstream : Bool) :
    let master := Master.ofConfig config withUpstream
    CountsChecks (master.echo.awaitEcho master.echoOptions) config.lookStep
        config.echoTimeout.toNat ∧
      ∀ receiver, master.upstream = some receiver →
        CountsChecks receiver.awaitLock config.lookStep config.lockTimeout.toNat := by
  intro master
  obtain ⟨hinterval, -, -⟩ := pos_of_check_ok h
  refine ⟨countsChecks_pollUntil _ _ (by decide) hinterval _, fun receiver hreceiver => ?_⟩
  cases withUpstream with
  | false => cases hreceiver
  | true =>
    cases hreceiver
    exact countsChecks_pollUntil _ _ (by decide) hinterval _

/-- A configuration whose waits check every millisecond for 2^32 milliseconds. -/
def hastyConfig : DesignConfig :=
  { DesignConfig.standard with
    pollInterval := 1
    echoTimeout := 4294967296
    lockTimeout := 4294967296 }

theorem countsChecks_hastyConfig :
    hastyConfig.check = .ok () ∧
      let master := Master.ofConfig hastyConfig true
      CountsChecks (master.echo.awaitEcho master.echoOptions) 1 UInt32.size ∧
        ∀ receiver, master.upstream = some receiver →
          CountsChecks receiver.awaitLock 1 UInt32.size := by
  have hcheck : hastyConfig.check = .ok () := by rfl
  exact ⟨hcheck, countsChecks_of_check hcheck true⟩

/-- With this configuration a device that never answers is checked 2^32 times by either wait, and
the wait reports that it has made no check. -/
theorem checks_of_hastyConfig :
    let master := Master.ofConfig hastyConfig true
    let wraps := fun wait : Procedure PollOutcome => wait.checks Design.silent = UInt32.size ∧
      ∃ after, wait.run Design.silent = (.ok { satisfied := false, attempts := 0 }, after)
    wraps (master.echo.awaitEcho master.echoOptions) ∧
      ∀ receiver, master.upstream = some receiver → wraps receiver.awaitLock := by
  intro master wraps
  have hlimit : pollLimit 1 UInt32.size = UInt32.size := by decide
  have hwraps : ∀ (block : RegisterBlock) (leaf : String) (accept : UInt32 → Bool),
      accept 0 = false → wraps (pollUntil 1 UInt32.size (block.check leaf accept)) := by
    intro block leaf accept hzero
    have hrun := exists_run_of_refused block leaf accept UInt32.size (Nat.le_refl 1)
      Design.calm_silent fun _ => hzero
    rw [hlimit] at hrun
    exact hrun
  refine ⟨hwraps _ _ _ (by decide), ?_⟩
  rintro receiver ⟨⟩
  exact hwraps _ _ _ (by decide)

/-- So the count of checks is not below 2^32 for every configuration that can be used. -/
theorem checks_beyond_count :
    ¬ ∀ (config : DesignConfig) (bench : Bench), config.check = .ok () →
      let master := Master.ofConfig config true
      (master.echo.awaitEcho master.echoOptions).checks bench < UInt32.size ∧
        ∀ receiver, master.upstream = some receiver →
          receiver.awaitLock.checks bench < UInt32.size := by
  intro h
  obtain ⟨hecho, -⟩ := h hastyConfig Design.silent (by rfl)
  obtain ⟨⟨hchecks, -⟩, -⟩ := checks_of_hastyConfig
  exact absurd hchecks (Nat.ne_of_lt hecho)

end DesignConfig

end OpticalTiming
