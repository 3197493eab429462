import OpticalTiming.Proofs.Excerpt
import OpticalTiming.Proofs.Polling
import OpticalTiming.Proofs.Routing

/-!
# The life of an echo trip

An `EchoTrip` is made for one echo, whatever becomes of it. `ran_attemptOn` goes through the ends of
a run: a trip that is not idle is refused, one whose strobe does not get through stays as it was,
and any other one has sent its strobe and ends as `done`, as `timedOut` or, when something broke it
off, as `polling`.

`EchoTrip.life` is a sequence of runs of one trip, each on a bench of its own, so anything may have
happened to the device and to the token in between. `oneShot_life` says of every life that a trip
which is no longer idle stays as it is, and that there is at most one strobe and at most one success.
-/

namespace OpticalTiming

open Procedure

/-! ### What breaks off a procedure -/

/-- The errors with which exchanges, waits and timestamps end a procedure. -/
inductive Error.BreaksOff : Error → Prop
  | bus (message : String) : BreaksOff (.bus message)
  | notDispatched (path : String) : BreaksOff (.notDispatched path)
  | cancelled : BreaksOff .cancelled
  | protocol (text : String) : BreaksOff (.protocol text)

theorem Error.BreaksOff.ne_echoTimeout {e : Error} (h : e.BreaksOff) (ms : UInt64) :
    e ≠ .echoTimeout ms := by
  cases h <;> rintro ⟨⟩

/-- An exchange breaks off if its outcomes do: a refused dispatch is an error of the bus. -/
theorem Exchange.breaksOff {α : Type} {p : Procedure α} {bench : Bench}
    {Outcome : Except Error α → List Access → Prop} (h : Exchange p bench Outcome)
    (houtcome : ∀ e accesses, Outcome (.error e) accesses → e.BreaksOff) :
    ∀ e, (p.run bench).1 = .error e → e.BreaksOff := by
  intro e he
  cases h with
  | refused message after fault run =>
    rw [run] at he
    cases he
    exact .bus message
  | committed result accesses after fault run dispatched commits outcome =>
    rw [run] at he
    cases he
    exact houtcome e accesses outcome

/-- From a bench with an empty queue no exchange and no wait ends with a failure of the link. -/
theorem stable_idle_breaksOff : Stable Bench.Idle Error.BreaksOff where
  send pairs bench h := by
    refine ⟨(stable_idle.send pairs bench h).1, (exchange_send pairs bench).breaksOff ?_⟩
    rintro e accesses ⟨⟨⟩, -⟩
  fetch block leaf bench h := by
    refine ⟨(stable_idle.fetch block leaf bench h).1, (block.exchange_fetch leaf h).breaksOff ?_⟩
    rintro e accesses ⟨value, -, hresult⟩
    split at hresult
    · cases hresult
      exact .notDispatched _
    · cases hresult
  snapshot block leaves bench h := by
    refine ⟨(stable_idle.snapshot block leaves bench h).1,
      (block.exchange_snapshot leaves h).breaksOff ?_⟩
    rintro e accesses ⟨values, -, -, hresult⟩
    unfold RegisterBlock.snapshotOf at hresult
    split at hresult
    · cases hresult
      exact .notDispatched _
    · cases hresult
  wait ms bench h := by
    refine ⟨(stable_idle.wait ms bench h).1, fun e he => ?_⟩
    rw [run_wait] at he
    obtain rfl := Bench.eq_cancelled_of_wait he
    exact .cancelled

/-- A dispatch commits one access for each that is queued. -/
theorem Bus.length_flushed (bus : Bus) (time : Nat) :
    (bus.flushed time).length = bus.queue.length :=
  length_entries time _ bus.queue

namespace EchoTrip

variable {trip : EchoTrip} {bench : Bench}

/-! ### After the strobe -/

/-- How a trip can end once its strobe is sent: the result, and the trip afterwards. -/
inductive Ended (trip : EchoTrip) : Except Error RoundTrip → EchoTrip → Prop
  | done (roundTrip : RoundTrip) (polls : UInt32) :
      Ended trip (.ok roundTrip) { trip with state := .done, polls }
  | timedOut (polls : UInt32) :
      Ended trip (.error (.echoTimeout trip.options.timeout)) { trip with state := .timedOut, polls }
  | brokenOff {e : Error} (cause : e.BreaksOff) (polls : UInt32) :
      Ended trip (.error e) { trip with state := .polling, polls }

namespace Ended

variable {result : Except Error RoundTrip} {after : EchoTrip}

theorem done_iff (h : trip.Ended result after) :
    after.state = .done ↔ ∃ roundTrip, result = .ok roundTrip := by
  cases h <;> simp

theorem timedOut_iff (h : trip.Ended result after) :
    after.state = .timedOut ↔ ∃ ms, result = .error (.echoTimeout ms) := by
  cases h with
  | done roundTrip polls => simp
  | timedOut polls => simp
  | brokenOff cause polls => simp [cause.ne_echoTimeout]

theorem polling_iff (h : trip.Ended result after) :
    after.state = .polling ↔ ∃ e, result = .error e ∧ ∀ ms, e ≠ .echoTimeout ms := by
  cases h with
  | done roundTrip polls => simp
  | timedOut polls => simp
  | brokenOff cause polls => simp [cause.ne_echoTimeout]

/-- A trip whose strobe was sent is neither idle nor about to poll any more. -/
theorem state_ne (h : trip.Ended result after) :
    after.state ≠ .idle ∧ after.state ≠ .requested := by
  cases h <;> exact ⟨by rintro ⟨⟩, by rintro ⟨⟩⟩

theorem errors (h : trip.Ended result after) {e : Error} (he : result = .error e) :
    e.BreaksOff ∨ e = .echoTimeout trip.options.timeout := by
  cases h with
  | done roundTrip polls => cases he
  | timedOut polls =>
    cases he
    exact Or.inr rfl
  | brokenOff cause polls =>
    cases he
    exact Or.inl cause

end Ended

theorem exists_finish {polling : EchoTrip} (hpolling : polling.state = .polling)
    (hidle : bench.Idle) :
    ∃ result after stop, polling.finish.run bench = (.ok (result, after), stop) ∧
      polling.Ended result after := by
  have hkeeps := stable_idle_breaksOff.keeps_readRoundTrip .protocol polling.monitor bench hidle
  cases hrun : polling.monitor.readRoundTrip.run bench with
  | mk result stop =>
  rw [hrun] at hkeeps
  unfold finish
  rw [run_bind_of_ok (run_attempt_of_run hrun)]
  cases result with
  | ok roundTrip => exact ⟨_, _, stop, rfl, .done roundTrip polling.polls⟩
  | error e =>
    have hbroken : polling.Ended (.error e) { polling with state := .polling } :=
      .brokenOff (hkeeps.2 e rfl) polling.polls
    rw [← hpolling] at hbroken
    exact ⟨_, _, stop, rfl, hbroken⟩

theorem run_awaitDone {result : Except Error PollOutcome} {polled : Bench}
    (hrun : (trip.monitor.awaitEcho trip.options).run bench = (result, polled)) :
    trip.awaitDone.run bench =
      match result with
      | .error e => (.ok (.error e, { trip with state := .polling }), polled)
      | .ok outcome =>
        if outcome.satisfied then
          { trip with state := .polling, polls := outcome.attempts }.finish.run polled
        else
          (.ok (.error (.echoTimeout trip.options.timeout),
            { trip with state := .timedOut, polls := outcome.attempts }), polled) := by
  refine (run_bind_of_ok (run_attempt_of_run hrun) _).trans ?_
  cases result with
  | error e => rfl
  | ok outcome =>
    dsimp only
    split <;> rfl

/-- The wait for the done bit and the look at the timestamps end a trip for good. -/
theorem exists_awaitDone (trip : EchoTrip) (hidle : bench.Idle) :
    ∃ result after stop, trip.awaitDone.run bench = (.ok (result, after), stop) ∧
      trip.Ended result after := by
  have hcheck : trip.monitor.checkDone.Keeps Bench.Idle Error.BreaksOff :=
    stable_idle_breaksOff.keeps_check _ _ _
  have hkeeps : (trip.monitor.awaitEcho trip.options).Keeps Bench.Idle Error.BreaksOff :=
    keeps_pollUntil (stable_idle_breaksOff.wait _) hcheck
  obtain ⟨hpolled, herror⟩ := hkeeps bench hidle
  cases hrun : (trip.monitor.awaitEcho trip.options).run bench with
  | mk result polled =>
  rw [hrun] at hpolled herror
  rw [run_awaitDone hrun]
  cases result with
  | error e => exact ⟨_, _, polled, rfl, .brokenOff (herror e rfl) trip.polls⟩
  | ok outcome =>
    by_cases hfound : outcome.satisfied = true
    · let polling : EchoTrip := { trip with state := .polling, polls := outcome.attempts }
      have hpolling : polling.state = .polling := rfl
      obtain ⟨result, after, stop, hfinish, hended⟩ := exists_finish hpolling hpolled
      refine ⟨result, after, stop, (if_pos hfound).trans hfinish, ?_⟩
      cases hended with
      | done roundTrip polls => exact .done roundTrip polls
      | timedOut polls => exact .timedOut polls
      | brokenOff cause polls => exact .brokenOff cause polls
    · exact ⟨_, _, polled, if_neg hfound, .timedOut outcome.attempts⟩

/-- What comes of a trip is what the monitor collects. -/
theorem run_collectEcho {result : Except Error RoundTrip} {after : EchoTrip} {stop : Bench}
    (hrun : trip.awaitDone.run bench = (.ok (result, after), stop)) :
    (trip.monitor.collectEcho trip.options).run bench = (result, stop) ∧
      (trip.monitor.collectEcho trip.options).commits bench = trip.awaitDone.commits bench := by
  rw [← EchoMonitor.resultOf_awaitDone, EchoMonitor.resultOf]
  refine ⟨(run_bind_of_ok hrun _).trans (run_ofExcept result stop), ?_⟩
  refine (commits_bind_of_ok hrun _).trans ?_
  exact (congrArg (_ ++ ·) (commits_ofExcept result stop)).trans (List.append_nil _)

/-- After the strobe nothing is written any more. -/
theorem kind_eq_read_of_mem_awaitDone (trip : EchoTrip) (hidle : bench.Idle) {a : Access}
    (ha : a ∈ trip.awaitDone.commits bench) : a.kind = .read := by
  obtain ⟨result, after, stop, hrun, -⟩ := trip.exists_awaitDone hidle
  rw [← (run_collectEcho hrun).2] at ha
  cases hkind : a.kind with
  | read => rfl
  | write =>
    have hwithin := trip.monitor.within_collectEcho trip.options
    have hwritten : a.IsWriteTo a.path := ⟨hkind, rfl⟩
    exact absurd hwritten (not_isWriteTo_of_within hwithin hidle List.not_mem_nil ha)

/-! ### Runs -/

/-- A run of a trip: the trip and the bench that it found, and what came of them. -/
structure Attempt where
  before : EchoTrip
  bench : Bench
  result : Except Error RoundTrip
  after : EchoTrip
  /-- The bench after the run. -/
  stop : Bench
  /-- What the run committed. -/
  commits : List Access

/-- How a run ends, and the trip afterwards. No run fails but by its result (`ran_attemptOn`). -/
def runOn (trip : EchoTrip) (bench : Bench) : Except Error RoundTrip × EchoTrip :=
  match (trip.run.run bench).1 with
  | .ok ended => ended
  | .error e => (.error e, trip)

/-- The run of a trip on a bench. -/
def attemptOn (trip : EchoTrip) (bench : Bench) : Attempt where
  before := trip
  bench := bench
  result := (trip.runOn bench).1
  after := (trip.runOn bench).2
  stop := (trip.run.run bench).2
  commits := trip.run.commits bench

/-- The strobe of a trip that is run on a bench, as it stands in the journal. -/
def strobe (trip : EchoTrip) (bench : Bench) : Access :=
  .written (bench.bus.dispatches + 1) bench.clock (trip.monitor.strobePath, 1)

/-- A run that is refused: nothing has changed. -/
def refusal (trip : EchoTrip) (bench : Bench) : Attempt where
  before := trip
  bench := bench
  result := .error (.protocol s!"echo round trip already in state {trip.state.name}")
  after := trip
  stop := bench
  commits := []

namespace Attempt

/-- The ends of a run. -/
inductive Ran : Attempt → Prop
  | refused (trip : EchoTrip) (bench : Bench) (hstate : trip.state ≠ .idle) :
      Ran (trip.refusal bench)
  | unsent (trip : EchoTrip) (bench stop : Bench) (message : String) (hstate : trip.state = .idle)
      (hfault : bench.bus.fault = some { remaining := 0, message }) :
      Ran {
        before := trip, bench, result := .error (.bus message), after := trip, stop, commits := [] }
  | sent (trip : EchoTrip) (bench stop : Bench) {result : Except Error RoundTrip}
      {after : EchoTrip} (reads : List Access) (hstate : trip.state = .idle)
      (hfault : ∀ message, bench.bus.fault ≠ some { remaining := 0, message })
      (hended : trip.Ended result after) (hreads : ∀ a ∈ reads, a.kind = .read) :
      Ran {
        before := trip, bench, result, after, stop
        commits := bench.bus.flushed bench.clock ++ trip.strobe bench :: reads }

/-- What a run committed behind the accesses that it found in the queue. -/
def own (a : Attempt) : List Access := a.commits.drop a.bench.bus.queue.length

/-- The law of a single run: the result tells the state of the trip afterwards. -/
structure Lawful (a : Attempt) : Prop where
  /-- A trip that is not idle is refused, and nothing changes. -/
  refused : a.before.state ≠ .idle →
    a.result = .error (.protocol s!"echo round trip already in state {a.before.state.name}") ∧
      a.after = a.before ∧ a.stop = a.bench
  done_iff : a.before.state = .idle →
    (a.after.state = .done ↔ ∃ roundTrip, a.result = .ok roundTrip)
  timedOut_iff : a.before.state = .idle →
    (a.after.state = .timedOut ↔ ∃ ms, a.result = .error (.echoTimeout ms))
  /-- A trip stays idle if the dispatch of its strobe fails. -/
  idle_iff : a.before.state = .idle →
    (a.after.state = .idle ↔ ∃ message, a.bench.bus.fault = some { remaining := 0, message })
  unsent : a.before.state = .idle → ∀ message,
    a.bench.bus.fault = some { remaining := 0, message } →
      a.result = .error (.bus message) ∧ a.commits = []
  /-- Every other error leaves the trip polling. -/
  polling_iff : a.before.state = .idle →
    (a.after.state = .polling ↔
      (∀ message, a.bench.bus.fault ≠ some { remaining := 0, message }) ∧
        ∃ e, a.result = .error e ∧ ∀ ms, e ≠ .echoTimeout ms)
  /-- There is no error but the timeout and those that break a trip off. -/
  errors : ∀ e, a.result = .error e →
    e.BreaksOff ∨ e = .echoTimeout a.before.options.timeout

theorem lawful_of_ran {a : Attempt} (h : a.Ran) : a.Lawful := by
  cases h with
  | refused trip bench hstate =>
    exact {
      refused := fun _ => ⟨rfl, rfl, rfl⟩
      done_iff := fun hidle => absurd hidle hstate
      timedOut_iff := fun hidle => absurd hidle hstate
      idle_iff := fun hidle => absurd hidle hstate
      unsent := fun hidle => absurd hidle hstate
      polling_iff := fun hidle => absurd hidle hstate
      errors := by
        rintro e ⟨⟩
        exact Or.inl (.protocol _) }
  | unsent trip bench stop message hstate hfault =>
    exact {
      refused := fun hne => absurd hstate hne
      done_iff := fun _ => by simp [hstate]
      timedOut_iff := fun _ => by simp [hstate]
      idle_iff := fun _ => iff_of_true hstate ⟨message, hfault⟩
      unsent := by
        intro _ other hother
        rw [hfault] at hother
        cases hother
        exact ⟨rfl, rfl⟩
      polling_iff := fun _ => by simp [hstate, hfault]
      errors := by
        rintro e ⟨⟩
        exact Or.inl (.bus message) }
  | sent trip bench stop reads hstate hfault hended hreads =>
    have hunsent : ¬ ∃ message, bench.bus.fault = some { remaining := 0, message } := by
      rintro ⟨message, hmessage⟩
      exact hfault message hmessage
    exact {
      refused := fun hne => absurd hstate hne
      done_iff := fun _ => hended.done_iff
      timedOut_iff := fun _ => hended.timedOut_iff
      idle_iff := fun _ => iff_of_false hended.state_ne.1 hunsent
      unsent := fun _ message hmessage => absurd hmessage (hfault message)
      polling_iff := fun _ => hended.polling_iff.trans (and_iff_right hfault).symm
      errors := fun e he => hended.errors he }

end Attempt

theorem run_of_idle (hstate : trip.state = .idle) :
    trip.run = (do
      match ← (send [(trip.monitor.strobePath, 1)]).attempt with
      | .error e => pure (.error e, trip)
      | .ok () => awaitDone { trip with state := .requested }) := if_pos hstate

theorem attemptOn_eq {result : Except Error RoundTrip} {after : EchoTrip} {stop : Bench}
    {commits : List Access} (hrun : trip.run.run bench = (.ok (result, after), stop))
    (hcommits : trip.run.commits bench = commits) :
    trip.attemptOn bench = { before := trip, bench, result, after, stop, commits } := by
  have hended : trip.runOn bench = (result, after) := by rw [runOn, hrun]
  rw [attemptOn, hended, hrun, hcommits]

theorem attemptOn_of_ne_idle (hstate : trip.state ≠ .idle) (bench : Bench) :
    trip.attemptOn bench = trip.refusal bench := by
  have hrefused : trip.run = pure (.error (.protocol
      s!"echo round trip already in state {trip.state.name}"), trip) := if_neg hstate
  have hrun := congrArg (Procedure.run · bench) hrefused
  have hcommits := congrArg (Procedure.commits · bench) hrefused
  exact attemptOn_eq hrun (hcommits.trans (commits_done _ bench))

/-- A trip whose strobe gets through goes on with the wait for the done bit. -/
theorem attemptOn_of_sent (hstate : trip.state = .idle) {result : Except Error RoundTrip}
    {after : EchoTrip} {sent stop : Bench}
    (hsend : (send [(trip.monitor.strobePath, 1)]).run bench = (.ok (), sent))
    (hstrobe : (send [(trip.monitor.strobePath, 1)]).commits bench =
      bench.bus.flushed bench.clock ++ [trip.strobe bench])
    (hawait : (awaitDone { trip with state := .requested }).run sent =
      (.ok (result, after), stop)) :
    trip.attemptOn bench =
      { before := trip, bench, result, after, stop
        commits := bench.bus.flushed bench.clock ++
          trip.strobe bench :: (awaitDone { trip with state := .requested }).commits sent } := by
  have hattempt := run_attempt_of_run hsend
  have hrun : trip.run.run bench = (.ok (result, after), stop) := by
    rw [run_of_idle hstate, run_bind_of_ok hattempt]
    exact hawait
  refine attemptOn_eq hrun ?_
  rw [run_of_idle hstate, commits_bind_of_ok hattempt, commits_attempt, hstrobe, List.append_assoc]
  rfl

/-- Every run ends in one of the ways of `Attempt.Ran`, whatever the bench. -/
theorem ran_attemptOn (trip : EchoTrip) (bench : Bench) : (trip.attemptOn bench).Ran := by
  by_cases hstate : trip.state = .idle
  · cases exchange_send [(trip.monitor.strobePath, 1)] bench with
    | refused message stop fault run refused commits =>
      have hattempt := run_attempt_of_run run
      have hrun : trip.run.run bench = (.ok (.error (.bus message), trip), stop) := by
        rw [run_of_idle hstate, run_bind_of_ok hattempt]
        rfl
      have hcommits : trip.run.commits bench = [] := by
        rw [run_of_idle hstate, commits_bind_of_ok hattempt, commits_attempt, commits]
        exact commits_done _ stop
      rw [attemptOn_eq hrun hcommits]
      exact .unsent trip bench stop message hstate fault
    | committed result accesses sent fault run dispatched commits outcome =>
      obtain ⟨rfl, rfl⟩ := outcome
      have hidle : sent.Idle := dispatched.queue
      obtain ⟨result, after, stop, hawait, hended⟩ :=
        exists_awaitDone { trip with state := .requested } hidle
      rw [attemptOn_of_sent hstate run commits hawait]
      refine .sent trip bench stop _ hstate fault ?_ fun a ha =>
        kind_eq_read_of_mem_awaitDone _ hidle ha
      cases hended with
      | done roundTrip polls => exact .done roundTrip polls
      | timedOut polls => exact .timedOut polls
      | brokenOff cause polls => exact .brokenOff cause polls
  · rw [attemptOn_of_ne_idle hstate]
    exact .refused trip bench hstate

/-! ### Lives -/

/-- The runs of a trip on one bench after the other. -/
def life : EchoTrip → List Bench → List Attempt
  | _, [] => []
  | trip, bench :: rest => trip.attemptOn bench :: (trip.attemptOn bench).after.life rest

/-- The law of the runs of one trip. -/
structure OneShot (monitor : EchoMonitor) (attempts : List Attempt) : Prop where
  lawful : ∀ a ∈ attempts, a.Lawful
  not_requested : ∀ a ∈ attempts, a.after.state ≠ .requested
  /-- A trip that is no longer idle stays as it is. -/
  settled : attempts.Pairwise fun earlier later =>
    earlier.after.state ≠ .idle → later.after = earlier.after
  /-- There is at most one strobe among all that the runs commit. -/
  strobes : (Access.writesTo monitor.strobePath (attempts.flatMap Attempt.own)).length ≤ 1
  /-- At most one run succeeds. -/
  successes : attempts.countP (fun a => a.result.isOk) ≤ 1

/-- Every run of a trip that is not idle is refused. -/
theorem life_of_ne_idle (hstate : trip.state ≠ .idle) (benches : List Bench) :
    trip.life benches = benches.map trip.refusal := by
  induction benches with
  | nil => rfl
  | cons bench rest ih =>
    rw [life, attemptOn_of_ne_idle hstate, List.map_cons]
    exact congrArg (trip.refusal bench :: ·) ih

/-- An idle trip is still idle after a run whose strobe did not get through, and its life goes on as
if there had been none. -/
theorem OneShot.cons_unsent {monitor : EchoMonitor} {stop : Bench} {message : String}
    {attempts : List Attempt} (hstate : trip.state = .idle)
    (hfault : bench.bus.fault = some { remaining := 0, message })
    (h : OneShot monitor attempts) :
    OneShot monitor ({
      before := trip, bench, result := .error (.bus message), after := trip, stop,
      commits := [] } :: attempts) where
  lawful := List.forall_mem_cons.mpr
    ⟨Attempt.lawful_of_ran (.unsent trip bench stop message hstate hfault), h.lawful⟩
  not_requested := List.forall_mem_cons.mpr ⟨by rw [hstate]; rintro ⟨⟩, h.not_requested⟩
  settled := List.pairwise_cons.mpr ⟨fun _ _ hne => absurd hstate hne, h.settled⟩
  strobes := by
    rw [List.flatMap_cons, Attempt.own, List.drop_nil]
    exact h.strobes
  successes := by
    rw [List.countP_cons_of_neg (by rintro ⟨⟩)]
    exact h.successes

/-- With the run that sends the strobe the life of a trip is over: all further runs are refused. -/
theorem oneShot_sent {stop : Bench} {result : Except Error RoundTrip} {after : EchoTrip}
    {reads : List Access} (hstate : trip.state = .idle)
    (hfault : ∀ message, bench.bus.fault ≠ some { remaining := 0, message })
    (hended : trip.Ended result after) (hreads : ∀ a ∈ reads, a.kind = .read)
    (benches : List Bench) :
    OneShot trip.monitor ({
      before := trip, bench, result, after, stop
      commits := bench.bus.flushed bench.clock ++ trip.strobe bench :: reads } ::
        after.life benches) := by
  obtain ⟨hidle, hrequested⟩ := hended.state_ne
  rw [life_of_ne_idle hidle]
  have hlater : ∀ a ∈ benches.map after.refusal, ∃ bench, a = after.refusal bench := by
    intro a ha
    obtain ⟨bench, -, rfl⟩ := List.mem_map.mp ha
    exact ⟨bench, rfl⟩
  exact {
    lawful := by
      refine List.forall_mem_cons.mpr ⟨Attempt.lawful_of_ran
        (.sent trip bench stop reads hstate hfault hended hreads), fun a ha => ?_⟩
      obtain ⟨bench, rfl⟩ := hlater a ha
      exact Attempt.lawful_of_ran (.refused after bench hidle)
    not_requested := by
      refine List.forall_mem_cons.mpr ⟨hrequested, fun a ha => ?_⟩
      obtain ⟨bench, rfl⟩ := hlater a ha
      exact hrequested
    settled := by
      refine List.pairwise_cons.mpr ⟨fun a ha _ => ?_, List.pairwise_map.mpr ?_⟩
      · obtain ⟨bench, rfl⟩ := hlater a ha
        rfl
      · exact List.pairwise_of_forall fun _ _ _ => rfl
    strobes := by
      have hnone : (benches.map after.refusal).flatMap Attempt.own = [] := by
        refine List.flatMap_eq_nil_iff.mpr fun a ha => ?_
        obtain ⟨bench, rfl⟩ := hlater a ha
        exact List.drop_nil
      have hquiet : Access.writesTo trip.monitor.strobePath reads = [] := by
        refine Access.writesTo_eq_nil fun a ha hwrite => ?_
        rw [Access.IsWriteTo, hreads a ha] at hwrite
        cases hwrite.1
      rw [List.flatMap_cons, hnone, List.append_nil, Attempt.own, ← Bus.length_flushed,
        List.drop_left, Access.writesTo_cons, hquiet]
      split
      · exact Nat.le_refl 1
      · exact Nat.zero_le 1
    successes := by
      have hnone : (benches.map after.refusal).countP (fun a => a.result.isOk) = 0 := by
        refine List.countP_eq_zero.mpr fun a ha => ?_
        obtain ⟨bench, rfl⟩ := hlater a ha
        rintro ⟨⟩
      rw [List.countP_cons, hnone]
      split <;> decide }

/-- The life of an idle trip. The runs whose strobe does not get through come first; the first
strobe that does ends it. -/
theorem oneShot_of_idle (hstate : trip.state = .idle) (benches : List Bench) :
    OneShot trip.monitor (trip.life benches) := by
  induction benches with
  | nil => exact ⟨by rintro a ⟨⟩, by rintro a ⟨⟩, .nil, Nat.zero_le _, Nat.zero_le _⟩
  | cons bench rest ih =>
    have hran := trip.ran_attemptOn bench
    have hbefore : (trip.attemptOn bench).before = trip := rfl
    rw [life]
    generalize trip.attemptOn bench = attempt at hran hbefore
    cases hran with
    | refused _ _ hne =>
      subst hbefore
      exact absurd hstate hne
    | unsent _ _ stop message _ hfault =>
      subst hbefore
      exact ih.cons_unsent hstate hfault
    | sent _ _ stop reads _ hfault hended hreads =>
      subst hbefore
      exact oneShot_sent hstate hfault hended hreads rest

/-- A new trip sends at most one strobe and succeeds at most once in its whole life, each of its runs
leaves the state that its result tells, and once the state is no longer idle it never changes. -/
theorem oneShot_life (monitor : EchoMonitor) (options : EchoOptions) (benches : List Bench) :
    OneShot monitor (life { monitor, options } benches) := by
  have hstate : EchoTrip.state { monitor, options } = .idle := rfl
  exact oneShot_of_idle hstate benches

/-- A trip whose first strobe is lost measures in its second run and is refused in the third. -/
example :
    (life { monitor := Design.reference.master.echo, options := {} }
        [{ Design.answering 0 with bus := (Design.answering 0).bus.failAfter 0 "lost" },
          Design.answering 0, Design.answering 0]).map
      (fun a => (a.after.state, a.result.isOk)) =
        [(.idle, false), (.done, true), (.done, false)] := by
  decide +kernel

end EchoTrip

end OpticalTiming
