import OpticalTiming.Proofs.Polling
import OpticalTiming.Proofs.Routing

/-!
# The rounds of a poll

A `Poll` may check anything that takes no time (`Procedure.Instant`), on any bench. `Poll.after` is
the bench after a number of rounds, as far as they are carried out, and `Poll.answer` what each
check answers. `run_rounds_reach` goes through the rounds that do not end the poll, and
`rounds_end` and `rounds_stop` say what the next one does, if its check ends the poll and if its
wait is cancelled. A round begins only if the last check has left the clock short of the timeout, so
the number of rounds that are allowed never decides (`run_pollRounds_add`).

`exact_rounds` draws the conclusions. Any sequence of answers is that of a check, and any check in
it may be the one that cancels the token (`Poll.ofAnswers`).
-/

namespace OpticalTiming

open Procedure

/-! ### Tokens that nobody cancels -/

theorem Bench.token_answer_of_quiet {bench : Bench} (h : bench.token.Quiet) (request : Request) :
    (bench.answer request).2.token = bench.token := by
  cases request with
  | wait ms =>
    change (bench.wait ms).2.token = bench.token
    rw [wait_of_quiet h]
  | dispatch =>
    change bench.dispatch.2.token = bench.token
    rcases bench.dispatch_cases with ⟨message, -, hrun⟩ | ⟨-, hrun⟩ <;> rw [hrun]
    · rfl
    · exact h.afterDispatch
  | _ => rfl

/-- A token that nobody cancels stays as it is. -/
theorem Procedure.token_run_of_quiet {α : Type} (p : Procedure α) {bench : Bench}
    (h : bench.token.Quiet) : (p.run bench).2.token = bench.token := by
  refine run_rel (R := fun first second => first.token.Quiet → second.token = first.token)
    (fun _ _ => rfl) (fun hfirst hsecond hquiet => ?_)
    (fun _ request hquiet => Bench.token_answer_of_quiet hquiet request) p bench h
  have hsame := hfirst hquiet
  exact (hsecond (hsame ▸ hquiet)).trans hsame

/-! ### Waits that are cancelled -/

namespace Bench

variable {bench : Bench} {ms time : Nat}

/-- When the token ends a wait of `length` milliseconds that begins now, if it does: at once if it
is cancelled, and at its deadline if that comes before the end of the wait. -/
def cancelTime? (bench : Bench) (length : Nat) : Option Nat :=
  if bench.token.isCancelled then some bench.clock
  else
    match bench.token.deadline with
    | none => none
    | some deadline =>
      if deadline < bench.clock + length then some (max bench.clock deadline) else none

theorem wait_of_cancelTime?_none (h : bench.cancelTime? (waitLength ms) = none) :
    bench.wait ms = (.ok (), { bench with clock := bench.clock + waitLength ms }) := by
  unfold cancelTime? at h
  unfold wait
  by_cases hcancelled : bench.token.isCancelled = true
  · rw [if_pos hcancelled] at h
    cases h
  · rw [if_neg hcancelled] at h ⊢
    by_cases hms : ms = 0
    · rw [if_pos hms, hms]
      rfl
    · rw [if_neg hms]
      cases hdeadline : bench.token.deadline with
      | none => rfl
      | some deadline =>
        rw [hdeadline] at h
        by_cases hbefore : deadline < bench.clock + waitLength ms
        · dsimp only at h
          rw [if_pos hbefore] at h
          cases h
        · exact if_neg hbefore

/-- A cancelled wait leaves the bench with the token cancelled, at the time of the cancellation. -/
theorem wait_of_cancelTime?_some (hms : 0 < ms)
    (h : bench.cancelTime? (waitLength ms) = some time) :
    ∃ after, bench.wait ms = (.error .cancelled, after) ∧ after.clock = time ∧
      after.bus = bench.bus ∧ after.token.isCancelled = true := by
  unfold cancelTime? at h
  unfold wait
  by_cases hcancelled : bench.token.isCancelled = true
  · rw [if_pos hcancelled] at h ⊢
    exact ⟨bench, rfl, Option.some.inj h, rfl, hcancelled⟩
  · rw [if_neg hcancelled] at h ⊢
    rw [if_neg (Nat.ne_of_gt hms)]
    cases hdeadline : bench.token.deadline with
    | none =>
      rw [hdeadline] at h
      cases h
    | some deadline =>
      rw [hdeadline] at h
      by_cases hbefore : deadline < bench.clock + waitLength ms
      · dsimp only at h
        rw [if_pos hbefore] at h
        exact ⟨_, if_pos hbefore, Option.some.inj h, rfl, rfl⟩
      · dsimp only at h
        rw [if_neg hbefore] at h
        cases h

theorem cancelTime?_of_quiet (h : bench.token.Quiet) (length : Nat) :
    bench.cancelTime? length = none := by
  rw [cancelTime?, h.isCancelled, h.deadline]
  rfl

theorem cancelTime?_of_isCancelled (h : bench.token.isCancelled = true) (length : Nat) :
    bench.cancelTime? length = some bench.clock := if_pos h

end Bench

/-! ### Rounds that are never used -/

/-- A poll that has enough rounds to reach its limit does the same with more of them. -/
theorem Procedure.run_pollRounds_add {interval timeout start rounds k : Nat} {attempts : UInt32}
    {check : Procedure Bool} (hinterval : 0 < interval) (hinstant : check.Instant) {bench : Bench}
    (hclock : bench.clock = start + k * waitLength interval) (hk : k < pollLimit interval timeout)
    (hrounds : pollLimit interval timeout ≤ k + rounds) (more : Nat) :
    (pollRounds interval timeout start check (rounds + more) attempts).run bench =
      (pollRounds interval timeout start check rounds attempts).run bench := by
  induction rounds generalizing k attempts bench with
  | zero => omega
  | succ rounds ih =>
    rw [Nat.add_right_comm]
    cases pollRound interval timeout start check attempts bench with
    | refused e stopped wait run commits => rw [run, run]
    | ended waited checked result wait look time run commits => rw [run, run]
    | next waited checked wait look time run commits =>
      have hlater : checked.clock = start + (k + 1) * waitLength interval := by
        rw [clock_of_round hinstant wait look, hclock, Nat.succ_mul, Nat.add_assoc]
      have hmore := lt_pollLimit_of_not_le hinterval hlater time
      rw [run, run]
      exact ih hlater hmore (by omega)

/-! ### Polls of any condition -/

/-- A poll whose check takes no time, and whose checks can be counted. -/
structure Poll where
  interval : Nat
  timeout : Nat
  check : Procedure Bool
  interval_pos : 0 < interval
  instant : check.Instant
  limit_lt : pollLimit interval timeout < UInt32.size

namespace Poll

variable (poll : Poll) (bench : Bench)

/-- The time that passes before each check. -/
def step : Nat := waitLength poll.interval

/-- The number of checks after which the poll gives up. -/
def limit : Nat := pollLimit poll.interval poll.timeout

/-- The poll as a procedure. -/
def procedure : Procedure PollOutcome := pollUntil poll.interval poll.timeout poll.check

/-- The rounds of a poll that begins on a bench. -/
def rounds (allowed : Nat) (attempts : UInt32) : Procedure PollOutcome :=
  pollRounds poll.interval poll.timeout bench.clock poll.check allowed attempts

/-- A bench when the wait before a check is over. -/
def waited : Bench := { bench with clock := bench.clock + poll.step }

/-- The bench after `n` rounds, each of them a wait and a check. -/
def after : Nat → Bench
  | 0 => bench
  | n + 1 => (poll.check.run (poll.waited (after n))).2

/-- What the check answers after `n` rounds. -/
def answer (n : Nat) : Except Error Bool := (poll.check.run (poll.waited (poll.after bench n))).1

/-- What the check commits after `n` rounds. -/
def looks (n : Nat) : List Access := poll.check.commits (poll.waited (poll.after bench n))

/-- When the wait after `n` rounds is cancelled, if it is. -/
def cancelTime? (n : Nat) : Option Nat := (poll.after bench n).cancelTime? poll.step

/-- Whether the first `n` waits are granted and the first `n` checks do not hold. -/
def Reaches (n : Nat) : Prop :=
  ∀ i < n, poll.cancelTime? bench i = none ∧ poll.answer bench i = .ok false

/-- How a poll ends that makes the given number of checks: its result, the time, and that nothing
was done but these checks. -/
structure Ends (checks : Nat) (result : Except Error PollOutcome) (time : Nat) : Prop where
  result : (poll.procedure.run bench).1 = result
  clock : (poll.procedure.run bench).2.clock = time
  bus : (poll.procedure.run bench).2.bus = (poll.after bench checks).bus
  commits : poll.procedure.commits bench = (List.range checks).flatMap (poll.looks bench)

variable {poll bench} {n time : Nat}

theorem wait_eq (hgranted : poll.cancelTime? bench n = none) :
    (wait poll.interval).run (poll.after bench n) = (.ok (), poll.waited (poll.after bench n)) := by
  rw [run_wait]
  exact Bench.wait_of_cancelTime?_none hgranted

theorem check_eq (n : Nat) :
    poll.check.run (poll.waited (poll.after bench n)) =
      (poll.answer bench n, poll.after bench (n + 1)) := rfl

theorem clock_after (n : Nat) : (poll.after bench n).clock = bench.clock + n * poll.step := by
  induction n with
  | zero => simp [after]
  | succ n ih =>
    rw [after, poll.instant.clock_run, waited, ih, Nat.succ_mul, Nat.add_assoc]

/-- The timeout has passed exactly after the last of the checks that the poll may make. -/
theorem timeout_le_iff (n : Nat) :
    bench.clock + poll.timeout ≤ (poll.after bench (n + 1)).clock ↔ poll.limit ≤ n + 1 := by
  rw [clock_after, limit, pollLimit_le_iff poll.interval_pos]
  exact Nat.add_le_add_iff_left

theorem token_after_of_quiet (h : bench.token.Quiet) (n : Nat) :
    (poll.after bench n).token = bench.token := by
  induction n with
  | zero => rfl
  | succ n ih =>
    have hquiet : (poll.waited (poll.after bench n)).token.Quiet := by
      change (poll.after bench n).token.Quiet
      rwa [ih]
    rw [after, token_run_of_quiet _ hquiet]
    exact ih

theorem fault_after (h : bench.bus.fault = none) (n : Nat) :
    (poll.after bench n).bus.fault = none := by
  induction n with
  | zero => exact h
  | succ n ih => exact fault_of_run (check_eq n) ih

/-! ### One round -/

/-- A check that does not hold leads to the next round unless it is the last one. -/
theorem rounds_next (hgranted : poll.cancelTime? bench n = none)
    (hanswer : poll.answer bench n = .ok false) (hmore : n + 1 < poll.limit) (allowed : Nat)
    (attempts : UInt32) :
    (poll.rounds bench (allowed + 1) attempts).run (poll.after bench n) =
        (poll.rounds bench allowed (attempts + 1)).run (poll.after bench (n + 1)) ∧
      (poll.rounds bench (allowed + 1) attempts).commits (poll.after bench n) =
        poll.looks bench n ++
          (poll.rounds bench allowed (attempts + 1)).commits (poll.after bench (n + 1)) := by
  cases pollRound poll.interval poll.timeout bench.clock poll.check attempts
    (poll.after bench n) with
  | refused e stopped wait run commits => cases wait.symm.trans (wait_eq hgranted)
  | ended waited checked result wait look time run commits =>
    cases wait.symm.trans (wait_eq hgranted)
    cases look.symm.trans (check_eq n)
    -- The poll would have ended because of the timeout, and that has not passed.
    have hlimit := (timeout_le_iff n).mp (time hanswer)
    omega
  | next waited checked wait look time run commits =>
    cases wait.symm.trans (wait_eq hgranted)
    obtain ⟨-, rfl⟩ := Prod.mk.inj (look.symm.trans (check_eq n))
    exact ⟨run allowed, commits allowed⟩

/-- A check that fails, that holds or that is the last one ends the poll. -/
theorem rounds_end (hgranted : poll.cancelTime? bench n = none)
    (hlast : poll.answer bench n = .ok false → poll.limit ≤ n + 1) (allowed : Nat)
    (attempts : UInt32) :
    (poll.rounds bench (allowed + 1) attempts).run (poll.after bench n) =
        ((poll.answer bench n).map fun satisfied => { satisfied, attempts := attempts + 1 },
          poll.after bench (n + 1)) ∧
      (poll.rounds bench (allowed + 1) attempts).commits (poll.after bench n) =
        poll.looks bench n := by
  cases pollRound poll.interval poll.timeout bench.clock poll.check attempts
    (poll.after bench n) with
  | refused e stopped wait run commits => cases wait.symm.trans (wait_eq hgranted)
  | ended waited checked result wait look time run commits =>
    cases wait.symm.trans (wait_eq hgranted)
    cases look.symm.trans (check_eq n)
    exact ⟨run allowed, commits allowed⟩
  | next waited checked wait look time run commits =>
    cases wait.symm.trans (wait_eq hgranted)
    obtain ⟨hanswer, rfl⟩ := Prod.mk.inj (look.symm.trans (check_eq n))
    exact absurd ((timeout_le_iff n).mpr (hlast hanswer.symm)) time

/-- A wait that is cancelled ends the poll without another check. -/
theorem rounds_stop (hcancelled : poll.cancelTime? bench n = some time) (allowed : Nat)
    (attempts : UInt32) :
    ∃ stopped, (poll.rounds bench (allowed + 1) attempts).run (poll.after bench n) =
        (.error .cancelled, stopped) ∧
      stopped.clock = time ∧ stopped.bus = (poll.after bench n).bus ∧
      (poll.rounds bench (allowed + 1) attempts).commits (poll.after bench n) = [] := by
  obtain ⟨stopped, hwait, hclock, hbus, -⟩ :=
    Bench.wait_of_cancelTime?_some poll.interval_pos hcancelled
  rw [← run_wait] at hwait
  cases pollRound poll.interval poll.timeout bench.clock poll.check attempts
    (poll.after bench n) with
  | refused e stopped' wait run commits =>
    cases wait.symm.trans hwait
    exact ⟨stopped, run allowed, hclock, hbus, commits allowed⟩
  | ended waited checked result wait look time run commits => cases wait.symm.trans hwait
  | next waited checked wait look time run commits => cases wait.symm.trans hwait

/-! ### All rounds -/

/-- The rounds that do not end the poll lead to the bench after them. -/
theorem run_rounds_reach (hn : n < poll.limit) (h : poll.Reaches bench n) (allowed : Nat) :
    (poll.rounds bench (n + allowed) 0).run bench =
        (poll.rounds bench allowed (.ofNat n)).run (poll.after bench n) ∧
      (poll.rounds bench (n + allowed) 0).commits bench =
        (List.range n).flatMap (poll.looks bench) ++
          (poll.rounds bench allowed (.ofNat n)).commits (poll.after bench n) := by
  -- By induction on the rounds that are over. The last of them was allowed as one more.
  induction n generalizing allowed with
  | zero =>
    rw [Nat.zero_add]
    exact ⟨rfl, rfl⟩
  | succ n ih =>
    obtain ⟨hrun, hcommits⟩ :=
      ih (Nat.lt_of_succ_lt hn) (fun i hi => h i (Nat.lt_succ_of_lt hi)) (allowed + 1)
    obtain ⟨hgranted, hanswer⟩ := h n (Nat.lt_succ_self n)
    obtain ⟨hround, hlooks⟩ := rounds_next hgranted hanswer hn allowed (.ofNat n)
    rw [Nat.add_assoc, Nat.add_comm 1 allowed, hrun, hcommits, hround, hlooks, UInt32.ofNat_add,
      List.range_succ, List.flatMap_append, List.flatMap_singleton, List.append_assoc]
    exact ⟨rfl, rfl⟩

/-- What a poll does is what its rounds do. -/
theorem run_procedure (poll : Poll) (bench : Bench) :
    poll.procedure.run bench =
        (poll.rounds bench (pollBound poll.interval poll.timeout) 0).run bench ∧
      poll.procedure.commits bench =
        (poll.rounds bench (pollBound poll.interval poll.timeout) 0).commits bench := by
  have hnow : now.run bench = (.ok bench.clock, bench) := run_now bench
  constructor
  · exact run_bind_of_ok hnow _
  · refine (commits_bind_of_ok hnow _).trans ?_
    rw [commits_now, List.nil_append]
    rfl

theorem limit_pos (poll : Poll) : 0 < poll.limit := Nat.le_max_left 1 _

/-- How many rounds are allowed makes no difference once they reach the limit. -/
theorem run_rounds_of_limit_le (poll : Poll) (bench : Bench) {allowed : Nat}
    (hallowed : poll.limit ≤ allowed) :
    (poll.rounds bench allowed 0).run bench = poll.procedure.run bench := by
  have hsame : ∀ more, (poll.rounds bench (poll.limit + more) 0).run bench =
      (poll.rounds bench poll.limit 0).run bench :=
    run_pollRounds_add poll.interval_pos poll.instant (by omega) poll.limit_pos (by
      rw [Nat.zero_add]
      exact Nat.le_refl poll.limit)
  have hbound : poll.limit ≤ pollBound poll.interval poll.timeout :=
    pollLimit_le_pollBound poll.timeout poll.interval_pos
  rw [(poll.run_procedure bench).1, ← Nat.add_sub_cancel' hallowed, ← Nat.add_sub_cancel' hbound,
    hsame, hsame]

/-- There are rounds enough to go on after any number of checks below the limit. -/
theorem exists_allowed (hn : n < poll.limit) :
    ∃ allowed, pollBound poll.interval poll.timeout = n + (allowed + 1) := by
  have hbound : poll.limit ≤ pollBound poll.interval poll.timeout :=
    pollLimit_le_pollBound poll.timeout poll.interval_pos
  exact ⟨pollBound poll.interval poll.timeout - n - 1, by omega⟩

theorem toNat_attempts (hn : n ≤ poll.limit) : (UInt32.ofNat n).toNat = n :=
  UInt32.toNat_ofNat_of_lt' (Nat.lt_of_le_of_lt hn poll.limit_lt)

/-- The poll ends with the first check that fails or holds, or with the last one. -/
theorem ends_of_last (hn : n < poll.limit) (h : poll.Reaches bench n)
    (hgranted : poll.cancelTime? bench n = none)
    (hlast : poll.answer bench n = .ok false → poll.limit ≤ n + 1) :
    poll.Ends bench (n + 1)
      ((poll.answer bench n).map fun satisfied => { satisfied, attempts := .ofNat (n + 1) })
      (bench.clock + (n + 1) * poll.step) := by
  obtain ⟨allowed, hallowed⟩ := exists_allowed hn
  obtain ⟨hprocedure, hcommits⟩ := poll.run_procedure bench
  obtain ⟨hreach, hreached⟩ := run_rounds_reach hn h (allowed + 1)
  obtain ⟨hround, hlooks⟩ := rounds_end hgranted hlast allowed (.ofNat n)
  rw [hallowed, hreach, hround] at hprocedure
  rw [hallowed, hreached, hlooks] at hcommits
  refine ⟨?_, ?_, ?_, ?_⟩
  · rw [hprocedure, UInt32.ofNat_add]
    rfl
  · rw [hprocedure, clock_after]
  · rw [hprocedure]
  · rw [hcommits, List.range_succ, List.flatMap_append, List.flatMap_singleton]

/-- A poll whose wait is cancelled ends there. -/
theorem ends_of_cancelled (hn : n < poll.limit) (h : poll.Reaches bench n)
    (hcancelled : poll.cancelTime? bench n = some time) :
    poll.Ends bench n (.error .cancelled) time := by
  obtain ⟨allowed, hallowed⟩ := exists_allowed hn
  obtain ⟨hprocedure, hcommits⟩ := poll.run_procedure bench
  obtain ⟨hreach, hreached⟩ := run_rounds_reach hn h (allowed + 1)
  obtain ⟨stopped, hround, hclock, hbus, hnone⟩ := rounds_stop hcancelled allowed (.ofNat n)
  rw [hallowed, hreach, hround] at hprocedure
  rw [hallowed, hreached, hnone, List.append_nil] at hcommits
  refine ⟨?_, ?_, ?_, hcommits⟩
  · rw [hprocedure]
  · rw [hprocedure, hclock]
  · rw [hprocedure, hbus]

/-! ### Any sequence of answers -/

/-- A check that goes through a sequence of answers, by the time since the start of its poll. In the
given round, if there is one, it dispatches. -/
def checkOfAnswers (interval start : Nat) (answers : Nat → Except Error Bool)
    (dispatches : Option Nat) : Procedure Bool := do
  let time ← now
  let n := (time - start) / waitLength interval - 1
  if dispatches = some n then
    dispatch
    Procedure.ofExcept (answers n)
  else
    Procedure.ofExcept (answers n)

/-- The poll with such a check. -/
def ofAnswers (interval timeout start : Nat) (answers : Nat → Except Error Bool)
    (dispatches : Option Nat) (hinterval : 0 < interval)
    (hlimit : pollLimit interval timeout < UInt32.size) : Poll where
  interval := interval
  timeout := timeout
  check := checkOfAnswers interval start answers dispatches
  interval_pos := hinterval
  instant := by
    refine instant_now.bind fun time => ?_
    dsimp only
    split
    · exact instant_dispatch.bind fun _ => instant_ofExcept _
    · exact instant_ofExcept _
  limit_lt := hlimit

theorem run_checkOfAnswers {interval start : Nat} (hinterval : 0 < interval)
    (answers : Nat → Except Error Bool) (dispatches : Option Nat)
    (hclock : bench.clock = start + (n + 1) * waitLength interval)
    (hfault : bench.bus.fault = none) :
    (checkOfAnswers interval start answers dispatches).run bench =
      (answers n, if dispatches = some n then bench.dispatched else bench) := by
  -- The clock tells which round it is, since the rounds are one step apart.
  have hround : (bench.clock - start) / waitLength interval - 1 = n := by
    rw [hclock, Nat.add_sub_cancel_left, Nat.mul_div_cancel _ (waitLength_pos hinterval)]
    rfl
  have hdispatch : dispatch.run bench = (.ok (), bench.dispatched) := by
    rw [run_dispatch]
    rcases bench.dispatch_cases with ⟨message, hdue, -⟩ | ⟨-, hrun⟩
    · rw [hfault] at hdue
      cases hdue
    · exact hrun
  rw [checkOfAnswers, run_bind_of_ok (run_now bench), hround]
  by_cases hnow : dispatches = some n
  · rw [if_pos hnow, if_pos hnow, run_bind_of_ok hdispatch, run_ofExcept]
  · rw [if_neg hnow, if_neg hnow, run_ofExcept]

section

variable {interval timeout start : Nat} {answers : Nat → Except Error Bool}
  {dispatches : Option Nat} {hinterval : 0 < interval}
  {hlimit : pollLimit interval timeout < UInt32.size}

theorem check_ofAnswers (hclock : bench.clock = start) (hfault : bench.bus.fault = none) (n : Nat) :
    let poll := ofAnswers interval timeout start answers dispatches hinterval hlimit
    poll.check.run (poll.waited (poll.after bench n)) =
      (answers n, if dispatches = some n then (poll.waited (poll.after bench n)).dispatched
        else poll.waited (poll.after bench n)) := by
  intro poll
  have htime : (poll.waited (poll.after bench n)).clock =
      start + (n + 1) * waitLength interval := by
    change (poll.after bench n).clock + waitLength interval = _
    rw [clock_after, hclock, Nat.succ_mul, Nat.add_assoc]
    rfl
  exact run_checkOfAnswers hinterval answers dispatches htime (fault_after hfault n)

/-- The token of such a poll is that of the start, up to one dispatch. -/
theorem token_after_ofAnswers (hclock : bench.clock = start) (hfault : bench.bus.fault = none)
    (n : Nat) :
    let poll := ofAnswers interval timeout start answers dispatches hinterval hlimit
    (poll.after bench n).token =
      if ∃ k < n, dispatches = some k then bench.token.afterDispatch else bench.token := by
  intro poll
  induction n with
  | zero =>
    rw [if_neg fun ⟨k, hk, _⟩ => Nat.not_lt_zero k hk]
    rfl
  | succ n ih =>
    rw [after, check_ofAnswers hclock hfault n]
    by_cases hnow : dispatches = some n
    · -- The dispatch of this round is the only one.
      have hfirst : ¬ ∃ k < n, dispatches = some k := by
        rintro ⟨k, hk, heq⟩
        rw [hnow] at heq
        exact Nat.ne_of_gt hk (Option.some.inj heq)
      rw [if_neg hfirst] at ih
      rw [if_pos hnow, if_pos ⟨n, Nat.lt_succ_self n, hnow⟩, ← ih]
      rfl
    · have hsame : (∃ k < n + 1, dispatches = some k) ↔ ∃ k < n, dispatches = some k := by
        constructor
        · rintro ⟨k, hk, heq⟩
          have hne : k ≠ n := by
            rintro rfl
            exact hnow heq
          exact ⟨k, by omega, heq⟩
        · rintro ⟨k, hk, heq⟩
          exact ⟨k, Nat.lt_succ_of_lt hk, heq⟩
      simp only [hsame, ← ih, if_neg hnow]
      rfl

end

/-! ### Exact polls -/

/-- What a poll does on a bench, whatever its check answers and whenever it is cancelled. -/
structure Exact (poll : Poll) (bench : Bench) : Prop where
  /-- The poll ends by itself: it does the same with any number of rounds that reaches its limit. -/
  terminates : ∀ allowed, poll.limit ≤ allowed →
    (poll.rounds bench allowed 0).run bench = poll.procedure.run bench
  /-- A check comes one step after the one before it, and the first one a step after the start. -/
  check_time : ∀ n, (poll.waited (poll.after bench n)).clock = bench.clock + (n + 1) * poll.step
  /-- Without a cancellation all waits are granted. -/
  granted : bench.token.Quiet → ∀ n, poll.cancelTime? bench n = none
  /-- A cancellation before the start or inside a check is seen at once by the wait after it. -/
  at_once : ∀ n, (poll.after bench n).token.isCancelled = true →
    poll.cancelTime? bench n = some (bench.clock + n * poll.step)
  /-- The first check that does not answer with false holds. -/
  satisfied : ∀ n < poll.limit, poll.Reaches bench n → poll.cancelTime? bench n = none →
    poll.answer bench n = .ok true → ∃ attempts : UInt32, attempts.toNat = n + 1 ∧
      poll.Ends bench (n + 1) (.ok { satisfied := true, attempts })
        (bench.clock + (n + 1) * poll.step)
  /-- The first check that does not answer with false fails. -/
  failed : ∀ n < poll.limit, poll.Reaches bench n → poll.cancelTime? bench n = none →
    ∀ e, poll.answer bench n = .error e →
      poll.Ends bench (n + 1) (.error e) (bench.clock + (n + 1) * poll.step)
  /-- All checks answer with false. -/
  exhausted : poll.Reaches bench poll.limit → ∃ attempts : UInt32, attempts.toNat = poll.limit ∧
    poll.Ends bench poll.limit (.ok { satisfied := false, attempts })
      (bench.clock + poll.limit * poll.step)
  /-- A wait is cancelled, and no check follows. -/
  cancelled : ∀ n < poll.limit, poll.Reaches bench n →
    ∀ time, poll.cancelTime? bench n = some time → poll.Ends bench n (.error .cancelled) time

theorem exact_on (poll : Poll) (bench : Bench) : poll.Exact bench where
  terminates _ hallowed := poll.run_rounds_of_limit_le bench hallowed
  check_time n := by rw [waited, clock_after, Nat.succ_mul, Nat.add_assoc]
  granted hquiet n := by
    refine Bench.cancelTime?_of_quiet ?_ _
    rwa [token_after_of_quiet hquiet]
  at_once n hcancelled := by
    rw [cancelTime?, Bench.cancelTime?_of_isCancelled hcancelled, clock_after]
  satisfied n hn hreach hgranted hanswer := by
    have hends := ends_of_last hn hreach hgranted fun h => by
      rw [hanswer] at h
      cases h
    rw [hanswer] at hends
    exact ⟨_, toNat_attempts hn, hends⟩
  failed n hn hreach hgranted e hanswer := by
    have hends := ends_of_last hn hreach hgranted fun h => by
      rw [hanswer] at h
      cases h
    rwa [hanswer] at hends
  exhausted hreach := by
    -- The last check is the one before the limit.
    obtain ⟨n, hlimit⟩ := Nat.exists_eq_add_one.mpr poll.limit_pos
    have hn : n < poll.limit := by omega
    obtain ⟨hgranted, hanswer⟩ := hreach n hn
    have hends := ends_of_last hn (fun i hi => hreach i (Nat.lt_trans hi hn)) hgranted
      fun _ => Nat.le_of_eq hlimit
    rw [hanswer, ← hlimit] at hends
    exact ⟨_, toNat_attempts (Nat.le_refl poll.limit), hends⟩
  cancelled _ hn hreach _ hcancelled := ends_of_cancelled hn hreach hcancelled

/-- Every poll is exact on every bench. There is a poll for every sequence of answers, also for one
that dispatches in a given round, and thereby cancels a token that is armed for this. -/
theorem exact_rounds :
    (∀ (poll : Poll) (bench : Bench), poll.Exact bench) ∧
      ∀ (interval timeout start : Nat) (answers : Nat → Except Error Bool)
        (dispatches : Option Nat), 0 < interval → pollLimit interval timeout < UInt32.size →
        ∃ poll : Poll, poll.interval = interval ∧ poll.timeout = timeout ∧
          ∀ bench : Bench, bench.clock = start → bench.bus.fault = none → ∀ n,
            poll.answer bench n = answers n ∧ (poll.after bench n).token =
              if ∃ k < n, dispatches = some k then bench.token.afterDispatch else bench.token := by
  refine ⟨exact_on, fun interval timeout start answers dispatches hinterval hlimit => ?_⟩
  refine ⟨ofAnswers interval timeout start answers dispatches hinterval hlimit, rfl, rfl,
    fun bench hclock hfault n => ⟨?_, token_after_ofAnswers hclock hfault n⟩⟩
  rw [answer, check_ofAnswers hclock hfault n]

/-- An empty bench with the given token. -/
def benchWith (token : Cancellation) : Bench where
  token := token
  wallClock := (Design.answering 0).wallClock

/-- A check that holds in the third round, and cancels the token by this. -/
def thirdTime : Poll :=
  ofAnswers 100 1000 0 (fun n => .ok (n = 2)) (some 2) (by decide) (by decide)

/-- The result of the check in which the token is cancelled stands. -/
example :
    let run := thirdTime.procedure.run (benchWith { dispatchesLeft := some 1 })
    run.1.toOption = some { satisfied := true, attempts := 3 } ∧ run.2.clock = 300 ∧
      run.2.token.isCancelled = true := by
  decide

/-- The number of checks of a condition that never holds is not the timeout over the interval,
rounded up: an interval beyond the longest wait is over before the timeout, and there is time for a
second check. -/
theorem checks_beyond_longestWait :
    ¬ ∀ (interval timeout : Nat) (check : Procedure Bool) (bench : Bench), 0 < interval →
      check.Instant → bench.token.Quiet → (∀ later, (check.run later).1 = .ok false) →
      max 1 ((timeout + interval - 1) / interval) < UInt32.size →
      ((pollUntil interval timeout check).run bench).1 = .ok
        { satisfied := false,
          attempts := .ofNat (max 1 ((timeout + interval - 1) / interval)) } := by
  intro h
  have hchecks := congrArg Except.toOption
    (h 946080000001 946080000001 (pure false) (benchWith {}) (by decide) (instant_done false)
      ⟨rfl, rfl, Or.inl rfl⟩ (fun _ => rfl) (by decide))
  revert hchecks
  decide +kernel

end Poll

end OpticalTiming
