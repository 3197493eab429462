import OpticalTiming.Proofs.Echoing
import OpticalTiming.Proofs.Sending

/-!
# The count of looks at the done bit

A trip has a count of its looks at the done bit, and the journal has the looks. A poll counts every
look it makes, but the count is part of its outcome: a poll that a cancellation or a missing value
breaks off has none (`Tally`, `tallied_pollRounds`). What follows the poll looks at the timestamps
only (`within_finish_stamps`).

`counts_attemptOn` draws the conclusion for a whole run. The count is that of the journal unless the
wait for the done bit was broken off, and then it is still the one from before the run, whatever the
journal has.
-/

namespace OpticalTiming

open Procedure

/-! ### Polls that count -/

/-- How a poll of a register ends that began with a count of attempts and read the register as often
as there are accesses. -/
inductive Tally (path : String) (unfilled : List String) (attempts : UInt32)
    (accesses : List Access) : Except Error PollOutcome → Prop
  /-- The poll ends by itself, and it has counted its looks. -/
  | counted (satisfied : Bool) :
      Tally path unfilled attempts accesses
        (.ok { satisfied, attempts := attempts + .ofNat accesses.length })
  /-- A wait is cancelled. -/
  | cancelled : Tally path unfilled attempts accesses (.error .cancelled)
  /-- The first look is carried out, but its value is missing. -/
  | missing (hunfilled : unfilled.contains path = true) (hone : accesses.length = 1) :
      Tally path unfilled attempts accesses (.error (.notDispatched path))

/-- A poll that reads nothing but its register, as the tally says, and leaves the bench ready. -/
structure Tallied (path : String) (unfilled : List String) (attempts : UInt32) (after : Bench)
    (accesses : List Access) (result : Except Error PollOutcome) : Prop where
  ready : after.Ready
  reads : ∀ a ∈ accesses, a.IsReadOf path
  tally : Tally path unfilled attempts accesses result

namespace Tallied

variable {path : String} {unfilled : List String} {attempts : UInt32} {after : Bench}
  {accesses : List Access} {look : Access} {result : Except Error PollOutcome}

/-- A poll that has not looked yet. -/
theorem nothing (h : after.Ready) :
    Tallied path unfilled attempts after [] (.ok { satisfied := false, attempts }) where
  ready := h
  reads := List.forall_mem_nil _
  tally := by
    have hcounted : Tally path unfilled attempts []
        (.ok { satisfied := false, attempts := attempts + 0 }) := .counted false
    rwa [UInt32.add_zero] at hcounted

/-- A poll that ends with its first look. -/
theorem once (h : after.Ready) (hlook : look.IsReadOf path) (satisfied : Bool) :
    Tallied path unfilled attempts after [look]
      ((if unfilled.contains path then .error (.notDispatched path) else .ok satisfied :
        Except Error Bool).map fun satisfied => { satisfied, attempts := attempts + 1 }) where
  ready := h
  reads := List.forall_mem_singleton.mpr hlook
  tally := by
    split
    case isTrue hunfilled => exact .missing hunfilled rfl
    case isFalse => exact .counted satisfied

/-- A poll whose first look is not its last. The value of that look is there, so no other one is
missing. -/
theorem cons (hlook : look.IsReadOf path) (hfilled : unfilled.contains path = false)
    (h : Tallied path unfilled (attempts + 1) after accesses result) :
    Tallied path unfilled attempts after (look :: accesses) result where
  ready := h.ready
  reads := List.forall_mem_cons.mpr ⟨hlook, h.reads⟩
  tally := by
    cases h.tally with
    | counted satisfied =>
      have hcount : attempts + 1 + .ofNat accesses.length =
          attempts + .ofNat (look :: accesses).length := by
        rw [List.length_cons, UInt32.ofNat_add, UInt32.add_assoc, UInt32.add_comm 1]
        rfl
      rw [hcount]
      exact .counted satisfied
    | cancelled => exact .cancelled
    | missing hunfilled hone =>
      rw [hfilled] at hunfilled
      cases hunfilled

end Tallied

/-- Waiting leaves a bench ready. -/
theorem Bench.Ready.of_bus {bench after : Bench} (h : bench.Ready) (hbus : after.bus = bench.bus) :
    after.Ready :=
  ⟨by rw [hbus, h.queue], by rw [hbus, h.fault]⟩

theorem bus_of_wait {ms : Nat} {bench after : Bench} {result : Except Error Unit}
    (hwait : (wait ms).run bench = (result, after)) : after.bus = bench.bus := by
  have hbus := bench.bus_wait ms
  rw [← run_wait, hwait] at hbus
  exact hbus

section

variable (block : RegisterBlock) (leaf : String) (accept : UInt32 → Bool)

/-- A look reads its register once. Its value is missing just if the register is left unfilled. -/
theorem run_check_of_ready {bench : Bench} (h : bench.Ready) :
    ∃ look after, (block.check leaf accept).run bench =
        (if bench.bus.unfilled.contains (block.path leaf) then
          .error (.notDispatched (block.path leaf)) else .ok (accept look.value), after) ∧
      bench.Dispatched after ∧ (block.check leaf accept).commits bench = [look] ∧
      look.IsReadOf (block.path leaf) := by
  obtain ⟨result, accesses, after, hfetch, hdispatched, hcommits, value, rfl, hresult⟩ :=
    (block.exchange_fetch leaf h.queue).run_of_fault_none h.fault
  rw [Bus.flushed_of_queue_nil h.queue, List.nil_append] at hcommits
  refine ⟨.fetched (bench.bus.dispatches + 1) bench.clock (block.path leaf, value), after, ?_,
    hdispatched, ?_, ⟨rfl, rfl⟩⟩
  · split at hresult
    case isTrue hunfilled =>
      rw [if_pos hunfilled]
      rw [hresult] at hfetch
      exact run_bind_of_error hfetch _
    case isFalse hfilled =>
      rw [if_neg hfilled]
      rw [hresult] at hfetch
      exact run_bind_of_ok hfetch _
  · split at hresult
    · rw [hresult] at hfetch
      exact (commits_bind_of_error hfetch _).trans hcommits
    · rw [hresult] at hfetch
      refine (commits_bind_of_ok hfetch _).trans ?_
      rw [pure_eq, commits_done, List.append_nil, hcommits]

/-- The rounds of a poll are tallied, from the count with which they begin. -/
theorem tallied_pollRounds (interval timeout start rounds : Nat) (attempts : UInt32)
    {bench : Bench} (h : bench.Ready) :
    let poll := pollRounds interval timeout start (block.check leaf accept) rounds attempts
    ∃ result after, poll.run bench = (result, after) ∧
      Tallied (block.path leaf) bench.bus.unfilled attempts after (poll.commits bench) result := by
  intro poll
  induction rounds generalizing attempts bench with
  | zero =>
    have hnone : poll.commits bench = [] := commits_done _ bench
    rw [hnone]
    exact ⟨_, bench, rfl, .nothing h⟩
  | succ rounds ih =>
    cases pollRound interval timeout start (block.check leaf accept) attempts bench with
    | refused e after wait run commits =>
      have hcancelled : (bench.wait interval).1 = .error e := by rw [← run_wait, wait]
      rw [Bench.eq_cancelled_of_wait hcancelled] at run wait
      rw [show poll.commits bench = [] from commits rounds]
      exact ⟨_, after, run rounds, h.of_bus (bus_of_wait wait), List.forall_mem_nil _, .cancelled⟩
    | ended waited checked result wait look time run commits =>
      obtain ⟨access, after, hlook, hdispatched, hread, hpath⟩ :=
        run_check_of_ready block leaf accept (h.of_bus (bus_of_wait wait))
      obtain ⟨rfl, rfl⟩ := Prod.mk.inj (look.symm.trans hlook)
      have hready : checked.Ready := (h.of_bus (bus_of_wait wait)).of_dispatched hdispatched
      refine ⟨_, checked, run rounds, ?_⟩
      rw [show poll.commits bench = [access] from (commits rounds).trans hread,
        bus_of_wait wait]
      exact .once hready hpath (accept access.value)
    | next waited checked wait look time run commits =>
      obtain ⟨access, after, hlook, hdispatched, hread, hpath⟩ :=
        run_check_of_ready block leaf accept (h.of_bus (bus_of_wait wait))
      obtain ⟨hresult, rfl⟩ := Prod.mk.inj (look.symm.trans hlook)
      have hready : checked.Ready := (h.of_bus (bus_of_wait wait)).of_dispatched hdispatched
      have hfilled : bench.bus.unfilled.contains (block.path leaf) = false := by
        rw [bus_of_wait wait] at hresult
        refine Bool.eq_false_iff.mpr fun hunfilled => ?_
        rw [if_pos hunfilled] at hresult
        cases hresult
      obtain ⟨result, after, hrun, hrest⟩ := ih (attempts + 1) hready
      rw [hdispatched.unfilled, bus_of_wait wait] at hrest
      refine ⟨result, after, (run rounds).trans hrun, ?_⟩
      rw [show poll.commits bench = access :: _ by rw [commits rounds, hread]; rfl]
      exact .cons hpath hfilled hrest

/-- A poll is tallied from zero. -/
theorem tallied_pollUntil (interval timeout : Nat) {bench : Bench} (h : bench.Ready) :
    let poll := pollUntil interval timeout (block.check leaf accept)
    ∃ result after, poll.run bench = (result, after) ∧
      Tallied (block.path leaf) bench.bus.unfilled 0 after (poll.commits bench) result := by
  intro poll
  have hnow : now.run bench = (.ok bench.clock, bench) := run_now bench
  have hrun : poll.run bench = _ := run_bind_of_ok hnow _
  have hcommits : poll.commits bench = _ := commits_bind_of_ok hnow _
  rw [commits_now, List.nil_append] at hcommits
  rw [hcommits, hrun]
  exact tallied_pollRounds block leaf accept interval timeout bench.clock
    (pollBound interval timeout) 0 h

end

/-! ### What follows the poll -/

namespace EchoMonitor

variable {monitor : EchoMonitor} {bench : Bench}

/-- Whether a measurement was broken off in its wait for the done bit: by a cancellation, or because
the value of the done bit is missing. -/
def BrokenOff (monitor : EchoMonitor) (result : Except Error RoundTrip) : Prop :=
  result = .error .cancelled ∨ result = .error (.notDispatched monitor.donePath)

/-- The timestamps are in other registers than the done bit. -/
theorem path_ne_donePath {leaf : String} (hleaf : leaf ∈ stampLeaves) :
    monitor.block.path leaf ≠ monitor.donePath :=
  RegisterBlock.path_ne_of_apart (apart_of_mem_stampLeaves hleaf).2 monitor.block monitor.block

/-- The error of a procedure is never that of a wait or of the done bit. -/
theorem not_brokenOff_of_raises {result : Except Error RoundTrip} (h : Raises result) :
    ¬ monitor.BrokenOff result := by
  rintro (hresult | hresult)
  · cases h _ hresult
  · cases h _ hresult

/-- Looking at the timestamps can fail, but not as a wait for the done bit does. -/
theorem run_readRoundTrip_of_ready (monitor : EchoMonitor) (h : bench.Ready) :
    ∃ result after, monitor.readRoundTrip.run bench = (result, after) ∧
      ¬ monitor.BrokenOff result := by
  obtain ⟨snapshot, accesses, after, hsnapshot, -, -, values, -, -, hresult⟩ :=
    (monitor.block.exchange_snapshot stampLeaves h.queue).run_of_fault_none h.fault
  unfold RegisterBlock.snapshotOf at hresult
  split at hresult
  case h_1 leaf hunfilled =>
    -- The leaf that is left unfilled is one of the timestamps.
    have hleaf : leaf ∈ stampLeaves := List.mem_of_find?_eq_some hunfilled
    rw [hresult] at hsnapshot
    refine ⟨_, after, run_bind_of_error hsnapshot _, ?_⟩
    rintro (hcancelled | hdone)
    · cases hcancelled
    · exact path_ne_donePath hleaf (Error.notDispatched.inj (Except.error.inj hdone))
  case h_2 =>
    rw [hresult] at hsnapshot
    have hstamps : monitor.readRoundTrip.run bench = _ := run_bind_of_ok hsnapshot _
    rw [run_ofExcept] at hstamps
    refine ⟨_, after, hstamps, not_brokenOff_of_raises ?_⟩
    exact (raises_get _ _).bind fun _ => (raises_get _ _).bind fun _ => (raises_get _ _).bind
      fun _ => (raises_get _ _).bind fun _ => raises_between _ _

end EchoMonitor

namespace EchoTrip

variable {trip : EchoTrip} {bench : Bench}

/-- The last part of a trip reads the timestamps only. -/
theorem within_finish_stamps (trip : EchoTrip) :
    trip.finish.Within
      { reads := EchoMonitor.stampLeaves.map trip.monitor.block.path, writes := [] } := by
  have hstamps : trip.monitor.readRoundTrip.Within
      { reads := EchoMonitor.stampLeaves.map trip.monitor.block.path, writes := [] } :=
    (within_snapshot fun leaf hleaf => List.mem_map_of_mem hleaf).bind fun _ => within_ofExcept _
  refine hstamps.attempt.bind fun result => ?_
  cases result <;> trivial

/-- The last part of a trip does not look at the done bit, and leaves the count alone. -/
theorem run_finish_of_ready (trip : EchoTrip) (h : bench.Ready) :
    ∃ result after stop, trip.finish.run bench = (.ok (result, after), stop) ∧
      after.polls = trip.polls ∧ ¬ trip.monitor.BrokenOff result ∧
      Access.readsOf trip.monitor.donePath (trip.finish.commits bench) = [] := by
  obtain ⟨result, stop, hread, hbroken⟩ := trip.monitor.run_readRoundTrip_of_ready h
  have hfinish : trip.finish.run bench = _ := run_bind_of_ok (run_attempt_of_run hread) _
  have hdone : trip.monitor.donePath ∉ EchoMonitor.stampLeaves.map trip.monitor.block.path := by
    intro hmem
    obtain ⟨leaf, hleaf, hpath⟩ := List.mem_map.mp hmem
    exact EchoMonitor.path_ne_donePath hleaf hpath
  have hnone : Access.readsOf trip.monitor.donePath (trip.finish.commits bench) = [] :=
    Access.readsOf_eq_nil fun a ha =>
      not_isReadOf_of_within trip.within_finish_stamps h.queue hdone ha
  cases result with
  | ok roundTrip => exact ⟨.ok roundTrip, _, stop, hfinish, rfl, hbroken, hnone⟩
  | error e => exact ⟨.error e, trip, stop, hfinish, rfl, hbroken, hnone⟩

/-! ### Runs -/

/-- What the count of a trip says of its looks at the done bit. -/
structure Counts (trip : EchoTrip) (looks : Nat) (result : Except Error RoundTrip)
    (after : EchoTrip) : Prop where
  /-- Every look is counted if the wait for the done bit came to its end, whatever the timestamps
  were. -/
  counted : ¬ trip.monitor.BrokenOff result → after.polls = .ofNat looks
  /-- No look is counted if the wait was broken off, however many there have been. -/
  uncounted : trip.monitor.BrokenOff result → after.polls = trip.polls
  /-- A missing value breaks off the wait at the first look. -/
  missing : result = .error (.notDispatched trip.monitor.donePath) → looks = 1

/-- What a trip does once its poll has ended. -/
def settle (trip : EchoTrip) :
    Except Error PollOutcome → Procedure (Except Error RoundTrip × EchoTrip)
  | .error e => pure (.error e, { trip with state := .polling })
  | .ok outcome =>
    if outcome.satisfied then
      finish { trip with state := .polling, polls := outcome.attempts }
    else
      pure (.error (.echoTimeout trip.options.timeout),
        { trip with state := .timedOut, polls := outcome.attempts })

theorem awaitDone_eq (trip : EchoTrip) :
    trip.awaitDone = (trip.monitor.awaitEcho trip.options).attempt >>= trip.settle := by
  refine congrArg (_ >>= ·) (funext fun result => ?_)
  cases result <;> rfl

/-- Once the poll has ended, the done bit is not looked at any more. -/
theorem readsOf_settle (trip : EchoTrip) (result : Except Error PollOutcome) (h : bench.Ready) :
    Access.readsOf trip.monitor.donePath ((trip.settle result).commits bench) = [] := by
  cases result with
  | error e => rw [settle, pure_eq, commits_done, Access.readsOf_nil]
  | ok outcome =>
    rw [settle]
    split
    · obtain ⟨-, -, -, -, -, -, hnone⟩ :=
        run_finish_of_ready { trip with state := .polling, polls := outcome.attempts } h
      exact hnone
    · rw [pure_eq, commits_done, Access.readsOf_nil]

/-- After the strobe the looks of a trip are those of its poll. -/
theorem counts_awaitDone (trip : EchoTrip) (h : bench.Ready) :
    ∃ result after stop, trip.awaitDone.run bench = (.ok (result, after), stop) ∧
      trip.Counts (Access.readsOf trip.monitor.donePath (trip.awaitDone.commits bench)).length
        result after := by
  obtain ⟨outcome, polled, hpoll, hready, hreads, htally⟩ :=
    tallied_pollUntil trip.monitor.block "csr.stat.rx_done" EchoMonitor.isDone
      trip.options.pollInterval.toNat trip.options.timeout.toNat h
  rw [← EchoMonitor.checkDone_eq] at hpoll hreads htally
  let poll := trip.monitor.awaitEcho trip.options
  have hattempt : poll.attempt.run bench = (.ok outcome, polled) := run_attempt_of_run hpoll
  have hlooks : Access.readsOf trip.monitor.donePath (trip.awaitDone.commits bench) =
      poll.commits bench := by
    rw [awaitDone_eq, commits_bind_of_ok hattempt, commits_attempt, Access.readsOf_append,
      trip.readsOf_settle outcome hready, List.append_nil]
    exact List.filter_eq_self.mpr fun a ha => decide_eq_true (hreads a ha)
  rw [hlooks, awaitDone_eq, run_bind_of_ok hattempt]
  change Tally trip.monitor.donePath bench.bus.unfilled 0 (poll.commits bench) outcome at htally
  cases htally with
  | cancelled =>
    have hbroken : trip.monitor.BrokenOff (.error .cancelled) := Or.inl rfl
    exact ⟨_, _, polled, rfl, fun hnot => absurd hbroken hnot, fun _ => rfl, by rintro ⟨⟩⟩
  | missing hunfilled hone =>
    have hbroken : trip.monitor.BrokenOff (.error (.notDispatched trip.monitor.donePath)) :=
      Or.inr rfl
    exact ⟨_, _, polled, rfl, fun hnot => absurd hbroken hnot, fun _ => rfl, fun _ => hone⟩
  | counted satisfied =>
    cases satisfied with
    | true =>
      obtain ⟨result, after, stop, hfinish, hpolls, hbroken, -⟩ :=
        run_finish_of_ready
          { trip with state := .polling, polls := 0 + .ofNat (poll.commits bench).length } hready
      refine ⟨result, after, stop, hfinish, fun _ => ?_, fun h => absurd h hbroken,
        fun h => absurd (Or.inr h) hbroken⟩
      rw [hpolls, UInt32.zero_add]
    | false =>
      have hunbroken : ¬ trip.monitor.BrokenOff (.error (.echoTimeout trip.options.timeout)) := by
        rintro (hresult | hresult) <;> cases hresult
      refine ⟨_, _, polled, rfl, fun _ => ?_, fun h => absurd h hunbroken, by rintro ⟨⟩⟩
      exact UInt32.zero_add _

/-- The looks of a run at the done bit. Accesses that the run found in the queue are not among
them. -/
def Attempt.looks (a : Attempt) : Nat :=
  (Access.readsOf a.before.monitor.donePath a.own).length

/-- On a bench where no dispatch is to fail, the count of an idle trip is that of the looks at the
done bit, unless the wait for the done bit is broken off; then it is the one from before. -/
theorem counts_attemptOn (hstate : trip.state = .idle) (hfault : bench.bus.fault = none) :
    trip.Counts (trip.attemptOn bench).looks (trip.attemptOn bench).result
      (trip.attemptOn bench).after := by
  obtain ⟨sent, hsend, hdispatched, hstrobe⟩ :=
    run_send_of_healthy [(trip.monitor.strobePath, 1)] hfault
  have hready : sent.Ready := ⟨hdispatched.queue, by rw [hdispatched.fault, hfault]; rfl⟩
  obtain ⟨result, after, stop, hawait, hcounts⟩ :=
    counts_awaitDone { trip with state := .requested } hready
  have hlooks : (trip.attemptOn bench).looks = (Access.readsOf trip.monitor.donePath
      ((awaitDone { trip with state := .requested }).commits sent)).length := by
    have hwrite : ¬ (trip.strobe bench).IsReadOf trip.monitor.donePath := by rintro ⟨⟨⟩, -⟩
    rw [attemptOn_of_sent hstate hsend hstrobe hawait, Attempt.looks, Attempt.own,
      ← Bus.length_flushed, List.drop_left, Access.readsOf_cons, if_neg hwrite]
  rw [hlooks, attemptOn_of_sent hstate hsend hstrobe hawait]
  exact ⟨hcounts.counted, hcounts.uncounted, hcounts.missing⟩

/-- A bench whose token is cancelled after two and a half intervals, and whose echo never comes. -/
def impatient : Bench where
  token := { deadline := some 250 }
  wallClock := (Design.answering 0).wallClock

/-- The two looks that the trip has had by then are not counted. -/
theorem counts_impatient :
    referenceTrip.state = .idle ∧ impatient.bus.fault = none ∧
      (referenceTrip.attemptOn impatient).result = .error .cancelled ∧
      (referenceTrip.attemptOn impatient).looks = 2 ∧
      (referenceTrip.attemptOn impatient).after.polls = 0 ∧
      referenceTrip.Counts (referenceTrip.attemptOn impatient).looks
        (referenceTrip.attemptOn impatient).result (referenceTrip.attemptOn impatient).after :=
  ⟨rfl, rfl, by rfl, by decide +kernel, by decide +kernel, counts_attemptOn rfl rfl⟩

/-- The count of a new trip is not that of its looks at the done bit after every run. -/
theorem looks_uncounted :
    ¬ ∀ (monitor : EchoMonitor) (options : EchoOptions) (bench : Bench),
      bench.bus.fault = none →
      let attempt := attemptOn { monitor, options } bench
      attempt.after.polls.toNat = attempt.looks := by
  intro h
  have hcount := h referenceTrip.monitor referenceTrip.options impatient rfl
  revert hcount
  decide +kernel

end EchoTrip

end OpticalTiming
