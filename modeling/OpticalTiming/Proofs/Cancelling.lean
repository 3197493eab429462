import OpticalTiming.Proofs.Issuing
import OpticalTiming.Proofs.Pacing

/-!
# Calls that are cancelled

A caller can cancel a call before it starts, after some time, or during one of its dispatches; these
are the `Moment`s. Only waits notice a cancelled token, and no time passes between a cancellation
and the next wait. So a cancelled run does what the other one does up to some wait, and ends there,
at the very time of the cancellation: `run_on` compares the two runs, request by request.

Every call ends with the cancellation if one of its waits is refused, the failures of links
notwithstanding, and looks at a status only after a wait. `cancelled_run` puts this together: the
cancelled call has committed a part of what the other one commits, it has looked at no status since
the cancellation, and it leaves the transmitter of its endpoint on.
-/

namespace OpticalTiming

open Procedure

/-! ### Moments of cancellation -/

/-- When a token is cancelled. -/
inductive Moment where
  /-- Before the start. -/
  | atStart
  /-- Once the given time has passed since the start, in milliseconds. -/
  | after (ms : Nat)
  /-- During a dispatch; the first one has the number zero. -/
  | during (n : Nat)
  deriving Repr, DecidableEq

namespace Moment

/-- The token of a caller who cancels at a moment of a run that starts at the given time. -/
def token (start : Nat) : Moment → Cancellation
  | atStart => { isCancelled := true }
  | after ms => { deadline := some (start + ms) }
  | during n => { dispatchesLeft := some (n + 1) }

/-- A bench with such a token. -/
def on (moment : Moment) (bench : Bench) : Bench :=
  { bench with token := moment.token bench.clock }

/-- The time of a moment in a run that nothing cancels; a run may issue too few dispatches to reach
it. -/
def time? {α : Type} (p : Procedure α) (bench : Bench) : Moment → Option Nat
  | atStart => some bench.clock
  | after ms => some (bench.clock + ms)
  | during n => (p.issues bench)[n]?.map Bench.clock

/-- Whether an access of a run comes later than a moment of the run. -/
def IsBefore (bench : Bench) (a : Access) : Moment → Prop
  | atStart => True
  | after ms => bench.clock + ms < a.time
  | during n => bench.bus.dispatches + n + 1 < a.dispatch

/-- The moment as it is seen after a dispatch. -/
def afterDispatch : Moment → Moment
  | during 0 => atStart
  | during (n + 1) => during n
  | moment => moment

/-- The moment as it is seen when some time has passed. -/
def afterWait (length : Nat) : Moment → Moment
  | after ms => after (ms - length)
  | moment => moment

end Moment

/-! ### Tokens that nobody cancels -/

namespace Bench

variable {bench : Bench}

theorem token_dispatched (htoken : bench.token = {}) : bench.dispatched.token = {} := by
  show bench.token.afterDispatch = {}
  rw [htoken]
  rfl

theorem answer_wait (htoken : bench.token = {}) (ms : Nat) :
    bench.answer (.wait ms) = (.ok (), { bench with clock := bench.clock + waitLength ms }) := by
  have hquiet : bench.token.Quiet := by
    rw [htoken]
    exact ⟨rfl, rfl, Or.inl rfl⟩
  exact wait_of_quiet hquiet ms

end Bench

/-! ### The two benches -/

namespace Moment

variable {α : Type} {bench : Bench}

theorem dispatched_on (moment : Moment) (bench : Bench) :
    (moment.on bench).dispatched = moment.afterDispatch.on bench.dispatched := by
  rcases moment with _ | ms | n
  · rfl
  · rfl
  · cases n <;> rfl

/-- A wait is granted as without a cancellation, or it ends the moment that it is about. -/
theorem wait_on (moment : Moment) (bench : Bench) (ms : Nat) :
    ((moment.on bench).wait ms = (.ok (), (moment.afterWait (waitLength ms)).on
        { bench with clock := bench.clock + waitLength ms }) ∧
      moment ≠ atStart ∧ ∀ left, moment = after left → waitLength ms ≤ left) ∨
    ∃ stop, (moment.on bench).wait ms = (.error .cancelled, stop) ∧ stop.bus = bench.bus ∧
      ∀ {α : Type} (p : Procedure α), moment.time? p bench = some stop.clock := by
  cases moment with
  | atStart => exact Or.inr ⟨atStart.on bench, rfl, rfl, fun _ => rfl⟩
  | during n =>
    left
    refine ⟨?_, by rintro ⟨⟩, by rintro left ⟨⟩⟩
    unfold Bench.wait
    split
    case isTrue h => cases h
    case isFalse =>
      split
      case isTrue hms =>
        rw [hms]
        rfl
      case isFalse => rfl
  | after left =>
    by_cases hms : ms = 0
    · left
      subst hms
      exact ⟨rfl, by rintro ⟨⟩, fun _ _ => Nat.zero_le _⟩
    have hwait : ((after left).on bench).wait ms =
        if bench.clock + left < bench.clock + waitLength ms then
          (.error .cancelled, ((after left).on bench).cancelAt (bench.clock + left))
        else
          (.ok (), { (after left).on bench with clock := bench.clock + waitLength ms }) := by
      unfold Bench.wait
      rw [if_neg (show ¬ ((after left).on bench).token.isCancelled = true from Bool.false_ne_true),
        if_neg hms]
      rfl
    by_cases hlt : left < waitLength ms
    · right
      rw [if_pos (Nat.add_lt_add_left hlt _)] at hwait
      refine ⟨_, hwait, rfl, fun _ => congrArg some ?_⟩
      exact (Nat.max_eq_right (Nat.le_add_right bench.clock left)).symm
    · left
      have hle : waitLength ms ≤ left := Nat.le_of_not_lt hlt
      rw [if_neg (fun h => hlt (Nat.lt_of_add_lt_add_left h))] at hwait
      have htoken : (after left).token bench.clock =
          (after (left - waitLength ms)).token (bench.clock + waitLength ms) := by
        have hsum : bench.clock + left =
            bench.clock + waitLength ms + (left - waitLength ms) := by omega
        rw [token, hsum]
        rfl
      refine ⟨hwait.trans ?_, by rintro ⟨⟩, by rintro _ ⟨⟩; exact hle⟩
      rw [on, htoken]
      rfl

/-- Every other request is answered alike, at the same time. -/
theorem answer_on (moment : Moment) (bench : Bench) {request : Request}
    (hdispatch : request ≠ .dispatch) (hwait : ∀ ms, request ≠ .wait ms) :
    (moment.on bench).answer request =
        ((bench.answer request).1, moment.on (bench.answer request).2) ∧
      (bench.answer request).2.clock = bench.clock ∧
      (bench.answer request).2.token = bench.token := by
  cases request with
  | dispatch => exact absurd rfl hdispatch
  | wait ms => exact absurd rfl (hwait ms)
  | _ => exact ⟨rfl, rfl, rfl⟩

/-- Before the dispatch that it is about, a cancellation makes no difference to any reply. -/
theorem answer_during (n : Nat) (htoken : bench.token = {}) {request : Request}
    (hother : request ≠ .dispatch) :
    ((during n).on bench).answer request =
        ((bench.answer request).1, (during n).on (bench.answer request).2) ∧
      (bench.answer request).2.token = {} := by
  by_cases hwait : ∃ ms, request = .wait ms
  · obtain ⟨ms, rfl⟩ := hwait
    rw [Bench.answer_wait htoken]
    rcases (during n).wait_on bench ms with ⟨hgranted, -⟩ | ⟨stop, -, -, htime⟩
    · exact ⟨hgranted, htoken⟩
    · cases htime (done ())
  · have hnot : ∀ ms, request ≠ .wait ms := fun ms h => hwait ⟨ms, h⟩
    obtain ⟨hanswer, -, hsame⟩ := (during n).answer_on bench hother hnot
    exact ⟨hanswer, hsame.trans htoken⟩

/-! The time of a moment is the same after a request. -/

theorem time?_ask_dispatch (moment : Moment) (hfault : bench.bus.fault = none)
    (next : Except Error Unit → Procedure α) :
    moment.time? (ask .dispatch next) bench =
      moment.afterDispatch.time? (next (.ok ())) bench.dispatched := by
  have hissues := (ask_dispatch_of_fault_none hfault next).2.1
  rcases moment with _ | ms | n
  · rfl
  · rfl
  · rw [time?, hissues]
    cases n <;> rfl

theorem time?_ask_wait (moment : Moment) (ms : Nat) (htoken : bench.token = {})
    (hstart : moment ≠ atStart) (hleft : ∀ left, moment = after left → waitLength ms ≤ left)
    (next : Except Error Unit → Procedure α) :
    moment.time? (ask (.wait ms) next) bench =
      (moment.afterWait (waitLength ms)).time? (next (.ok ()))
        { bench with clock := bench.clock + waitLength ms } := by
  cases moment with
  | atStart => exact absurd rfl hstart
  | after left =>
    have hle := hleft left rfl
    refine congrArg some ?_
    show bench.clock + left = bench.clock + waitLength ms + (left - waitLength ms)
    omega
  | during n =>
    have hissues : (ask (.wait ms) next).issues bench =
        (next (bench.answer (.wait ms)).1).issues (bench.answer (.wait ms)).2 := rfl
    rw [time?, hissues, Bench.answer_wait htoken]
    rfl

theorem time?_ask_of_ne (moment : Moment) {request : Request} (h : request ≠ .dispatch)
    (hclock : (bench.answer request).2.clock = bench.clock) (next : request.Reply → Procedure α) :
    moment.time? (ask request next) bench =
      moment.time? (next (bench.answer request).1) (bench.answer request).2 := by
  cases moment with
  | atStart => exact congrArg some hclock.symm
  | after ms => exact congrArg (fun clock => some (clock + ms)) hclock.symm
  | during n => rw [time?, issues_ask_of_ne h, time?]

end Moment

/-! ### The two runs -/

namespace Procedure

variable {α : Type} {bench : Bench} {moment : Moment}

/-- A run that is cancelled at a moment is the run that is not, or it does the same up to a wait
that is refused at that moment, and the rest is what the procedure does after the refusal. -/
theorem run_on {p : Procedure α} {Q : Procedure α → Prop} (hp : p.After .cancelled Q)
    (hfault : bench.bus.fault = none) (htoken : bench.token = {}) (moment : Moment) :
    (∃ token, p.run (moment.on bench) = ((p.run bench).1, { (p.run bench).2 with token })) ∨
    ∃ q stop, Q q ∧ p.run (moment.on bench) = q.run stop ∧
      moment.time? p bench = some stop.clock ∧
      stop.bus.journal <+: (p.run bench).2.bus.journal := by
  induction p, bench, hfault using calm_induction generalizing moment with
  | done a bench hfault => exact Or.inl ⟨_, rfl⟩
  | fail e bench hfault => exact Or.inl ⟨_, rfl⟩
  | dispatch next bench hfault ih =>
    -- The dispatch succeeds in both runs.
    have hfault' : (moment.on bench).bus.fault = none := hfault
    rw [(ask_dispatch_of_fault_none hfault' next).1, moment.dispatched_on,
      (ask_dispatch_of_fault_none hfault next).1, moment.time?_ask_dispatch hfault next]
    exact ih (hp _).2 (Bench.token_dispatched htoken) _
  | other request next bench hfault hother ih =>
    by_cases hwait : ∃ ms, request = .wait ms
    · -- The wait is refused, or it takes as long as in the other run.
      obtain ⟨ms, rfl⟩ := hwait
      have hanswer := Bench.answer_wait htoken ms
      have hon : (ask (.wait ms) next).run (moment.on bench) =
        (next ((moment.on bench).wait ms).1).run ((moment.on bench).wait ms).2 := rfl
      rcases moment.wait_on bench ms with ⟨hgranted, hstart, hleft⟩ | ⟨stop, hrefused, hbus, htime⟩
      · rw [hanswer] at ih
        rw [hon, hgranted, run_ask, hanswer, moment.time?_ask_wait ms htoken hstart hleft next]
        exact ih (hp _).2 htoken _
      · right
        refine ⟨next (.error .cancelled), stop, (hp (.error .cancelled)).1 rfl, ?_, htime _, ?_⟩
        · rw [hon, hrefused]
        · rw [hbus, journal_run]
          exact List.prefix_append _ _
    · -- The cancellation makes no difference to the reply.
      have hnot : ∀ ms, request ≠ .wait ms := fun ms h => hwait ⟨ms, h⟩
      obtain ⟨hanswer, hclock, hsame⟩ := moment.answer_on bench hother hnot
      rw [run_ask, run_ask, hanswer, moment.time?_ask_of_ne hother hclock]
      exact ih (hp _).2 (hsame.trans htoken) _

/-- Looks at a status come no later than a dispatch during which the token is cancelled. -/
theorem dispatch_le_of_looksAtStatus {p : Procedure α} {waited : Bool} (hp : p.Paced waited)
    (hfault : bench.bus.fault = none) (htoken : bench.token = {}) (n : Nat) :
    ∀ a ∈ p.commits ((Moment.during n).on bench), a.LooksAtStatus →
      a.dispatch ≤ bench.bus.dispatches + n + 1 := by
  induction p, bench, hfault using calm_induction generalizing n waited with
  | done a bench hfault =>
    intro a ha
    rw [commits_done] at ha
    cases ha
  | fail e bench hfault =>
    intro a ha
    rw [commits_fail] at ha
    cases ha
  | dispatch next bench hfault ih =>
    intro a ha hlooks
    have hfault' : ((Moment.during n).on bench).bus.fault = none := hfault
    rw [(ask_dispatch_of_fault_none hfault' next).2.2, Moment.dispatched_on] at ha
    rcases List.mem_append.mp ha with ha | ha
    · have hnumber : a.dispatch = bench.bus.dispatches + 1 := (Bus.mem_flushed ha).1
      omega
    · have hrest : (next (.ok ())).Paced false := hp.2 (.ok ())
      cases n with
      | zero =>
        -- The token has just been cancelled, and nothing is queued.
        have hclean : ∀ queued ∈ (Moment.atStart.on bench.dispatched).bus.queue,
            ¬ queued.LooksAtStatus := by
          show ∀ queued ∈ bench.dispatched.bus.queue, _
          rw [bench.queue_dispatched]
          rintro queued ⟨⟩
        exact absurd hlooks (not_looksAtStatus_of_isCancelled hrest rfl hclean a ha)
      | succ n =>
        have hle := ih hrest (Bench.token_dispatched htoken) n a ha hlooks
        rw [bench.dispatches_dispatched] at hle
        omega
  | other request next bench hfault hother ih =>
    intro a ha hlooks
    obtain ⟨hanswer, htoken'⟩ := Moment.answer_during n htoken hother
    rw [commits_ask_of_ne hother, hanswer] at ha
    rw [← (Bench.answer_of_ne_dispatch hother bench).2.1]
    exact ih (hp.2 _) htoken' n a ha hlooks

/-- A run that ends at the moment of its cancellation has looked at no status since. -/
theorem not_isBefore_of_looksAtStatus {p : Procedure α} (hp : p.Paced false)
    (hidle : bench.bus.queue = []) (hfault : bench.bus.fault = none) (htoken : bench.token = {})
    (htime : moment.time? p bench = some (p.run (moment.on bench)).2.clock) :
    ∀ a ∈ p.commits (moment.on bench), a.LooksAtStatus → ¬ moment.IsBefore bench a := by
  intro a ha hlooks hbefore
  cases moment with
  | atStart =>
    have hclean : ∀ queued ∈ (Moment.atStart.on bench).bus.queue, ¬ queued.LooksAtStatus := by
      show ∀ queued ∈ bench.bus.queue, _
      rw [hidle]
      rintro queued ⟨⟩
    exact not_looksAtStatus_of_isCancelled hp rfl hclean a ha hlooks
  | after ms =>
    have hend : bench.clock + ms = (p.run ((Moment.after ms).on bench)).2.clock :=
      Option.some.inj htime
    have hlate := (mem_commits ha).2.2
    have hlater : bench.clock + ms < a.time := hbefore
    omega
  | during n =>
    have hle := dispatch_le_of_looksAtStatus hp hfault htoken n a ha hlooks
    have hlater : bench.bus.dispatches + n + 1 < a.dispatch := hbefore
    omega

end Procedure

/-! ### What a cancellation leaves -/

/-- How a run that is cancelled at a moment compares with the run that is not. -/
structure Moment.Cancels {α : Type} (moment : Moment) (p : Procedure α) (bench : Bench)
    (Ended : Except Error α → List Access → Prop) : Prop where
  /-- The cancelled run commits a part of what the other one commits. -/
  commits : p.commits (moment.on bench) <+: p.commits bench
  /-- The two runs are the same, or the cancelled one ends at the time of the cancellation, as
  `Ended` says of its result and of what it committed, and has looked at no status since. -/
  same_or_ended :
    ((p.run (moment.on bench)).1 = (p.run bench).1 ∧
      (p.run (moment.on bench)).2.bus = (p.run bench).2.bus ∧
      (p.run (moment.on bench)).2.clock = (p.run bench).2.clock) ∨
    (Ended (p.run (moment.on bench)).1 (p.commits (moment.on bench)) ∧
      moment.time? p bench = some (p.run (moment.on bench)).2.clock ∧
      ∀ a ∈ p.commits (moment.on bench), a.LooksAtStatus → ¬ moment.IsBefore bench a)

section

variable {α : Type} {bench : Bench} {p : Procedure α}

/-- A paced procedure that asks for nothing more after a cancellation ends with it. -/
theorem Moment.cancels_of_after {Final : Except Error α → Prop}
    (hp : p.After .cancelled fun q => ∃ result, Final result ∧ ∀ stop, q.run stop = (result, stop))
    (hpaced : p.Paced false) (hidle : bench.bus.queue = []) (hfault : bench.bus.fault = none)
    (htoken : bench.token = {}) (moment : Moment) :
    moment.Cancels p bench fun result _ => Final result := by
  -- Both journals go on from that of the bench.
  have hcommits : ∀ stop, (p.run (moment.on bench)).2.bus.journal = stop →
      stop <+: (p.run bench).2.bus.journal → p.commits (moment.on bench) <+: p.commits bench := by
    intro stop hstop hprefix
    have hjournal : (p.run (moment.on bench)).2.bus.journal =
        bench.bus.journal ++ p.commits (moment.on bench) := journal_run p (moment.on bench)
    rw [← hstop, hjournal, journal_run] at hprefix
    exact (List.prefix_append_right_inj _).mp hprefix
  rcases run_on hp hfault htoken moment with
    ⟨token, hrun⟩ | ⟨q, stop, ⟨result, hfinal, hq⟩, hrun, htime, hprefix⟩
  · refine ⟨hcommits _ (by rw [hrun]) List.prefix_rfl, Or.inl ?_⟩
    rw [hrun]
    exact ⟨rfl, rfl, rfl⟩
  · rw [hq] at hrun
    have hstop : moment.time? p bench = some (p.run (moment.on bench)).2.clock := by
      rw [hrun, htime]
    refine ⟨hcommits _ (by rw [hrun]) hprefix,
      Or.inr ⟨?_, hstop, not_isBefore_of_looksAtStatus hpaced hidle hfault htoken hstop⟩⟩
    rw [hrun]
    exact hfinal

theorem Moment.cancels_of_escalates (hp : p.Escalates .cancelled) (hpaced : p.Paced false)
    (hidle : bench.bus.queue = []) (hfault : bench.bus.fault = none) (htoken : bench.token = {})
    (moment : Moment) : moment.Cancels p bench fun result _ => result = .error .cancelled := by
  refine moment.cancels_of_after (hp.mono ?_) hpaced hidle hfault htoken
  rintro q rfl
  exact ⟨_, rfl, fun stop => rfl⟩

end

/-- An echo on its own reports a cancellation as its result. -/
theorem EchoTrip.after_cancelled_run (trip : EchoTrip) :
    trip.run.After .cancelled fun q =>
      ∃ result, (∃ after, result = .ok (.error .cancelled, after)) ∧
        ∀ stop, q.run stop = (result, stop) := by
  have hreport : ∀ after : EchoTrip, ∃ result, (∃ after, result = .ok (.error .cancelled, after)) ∧
      ∀ stop, (done (Except.error Error.cancelled, after) :
        Procedure (Except Error RoundTrip × EchoTrip)).run stop = (result, stop) :=
    fun after => ⟨_, ⟨after, rfl⟩, fun stop => rfl⟩
  have hattempt : ∀ {α : Type} {p : Procedure α}, p.Escalates .cancelled →
      p.attempt.After .cancelled (· = done (.error .cancelled)) := by
    intro α p hp
    exact After.attempt hp (by rintro q rfl; rfl)
  have hfatal : Error.cancelled.isFatal := rfl
  have hparts := compositional_escalates hfatal
  unfold EchoTrip.run
  split
  · -- Each of the three parts of a trip is attempted, and its failure reported.
    refine (hattempt (escalates_send [(trip.monitor.strobePath, 1)])).bind ?_ fun result => ?_
    · rintro q rfl
      exact hreport trip
    cases result with
    | error e => trivial
    | ok u =>
      refine (hattempt (hparts.poll _ _ trip.monitor.block _ _)).bind ?_ fun result => ?_
      · rintro q rfl
        exact hreport _
      cases result with
      | error e => trivial
      | ok outcome =>
        dsimp only
        split
        · have hstamps : trip.monitor.readRoundTrip.Escalates .cancelled :=
            (hparts.stamps trip.monitor.block).bind fun _ => escalates_ofExcept _
          refine (hattempt hstamps).bind ?_ fun result => ?_
          · rintro q rfl
            exact hreport _
          · cases result <;> trivial
        · trivial
  · trivial

namespace Design

variable {design : Design} {settings : CalibrationSettings} {address : EndpointAddress}
  {channel? : Option MuxChannel} {bench after : Bench} {link : Link}

/-- The check of a channel has nothing to do with a cancellation. -/
theorem checkChannel_ne_cancelled (design : Design) (settings : CalibrationSettings)
    (channel? : Option MuxChannel) :
    (design.calibrationWith settings).checkChannel channel? ≠ .error .cancelled := by
  intro h
  cases channel? with
  | none => cases h
  | some channel =>
    cases hmux : design.mux with
    | none =>
      simp only [Calibration.checkChannel, Calibration.muxFor, calibrationWith, hmux] at h
      cases h
    | some mux =>
      simp only [Calibration.checkChannel, Calibration.muxFor, calibrationWith, hmux,
        FanoutMux.checkChannel] at h
      split at h <;> cases h

/-- A measurement that is cancelled has switched the transmitter of its endpoint on, and has not
touched it since. -/
theorem words_of_isolateAndMeasure_cancelled (htarget : address.IsTarget)
    (hidle : bench.bus.queue = []) (hfault : bench.bus.fault = none)
    (hrun : ((design.calibrationWith settings).isolateAndMeasure address true channel?).run bench =
      (.error .cancelled, after)) :
    (Access.writesTo design.master.transmitters.controlPath
      (((design.calibrationWith settings).isolateAndMeasure address true channel?).commits
        bench)).map Access.value = [0, address.value ||| TransmitterControl.enableBit] := by
  have hrouting : ∀ number time, (Access.writesTo design.master.transmitters.controlPath
      ((design.routing address true channel?).map (.written number time))).map Access.value =
        [0, address.value ||| TransmitterControl.enableBit] := by
    intro number time
    rw [Access.writesTo_written, filter_routing_control]
    rfl
  obtain ⟨result, routed, accesses, hroute, hcommits, hrouted⟩ :=
    exists_routed htarget design settings true channel? bench
  cases hrouted with
  | noChannel e refused =>
    rw [isolateAndMeasure_eq htarget, run_bind_of_error hroute] at hrun
    cases hrun
    exact absurd refused (checkChannel_ne_cancelled design settings channel?)
  | direct noControl => cases noControl
  | refused message _ fault =>
    rw [hfault] at fault
    cases fault
  | cancelled middle _ dispatched bus =>
    rw [isolateAndMeasure_eq htarget, commits_bind_of_error hroute, hcommits,
      Bus.flushed_of_queue_nil hidle, List.nil_append]
    exact hrouting _ _
  | settled middle dispatched =>
    cases hlock : (design.master.lockAndEcho address).run
        { middle with clock := middle.clock + settling settings channel? } with
    | mk result locked =>
      rw [run_isolateAndMeasure htarget hroute hlock] at hrun
      cases result with
      | ok roundTrip => cases hrun
      | error e =>
        rw [run_conclude_error] at hrun
        cases hrun
        -- Locking and measuring do not write the control register, and nothing is released.
        have hnone : Access.writesTo design.master.transmitters.controlPath
            ((design.master.lockAndEcho address).commits
              { middle with clock := middle.clock + settling settings channel? }) = [] :=
          writesTo_commits_of_within (design.master.within_lockAndEcho address) dispatched.queue
            design.master.controlPath_notMem_linkFootprint
        have hkept : (design.conclude settings address true (.error .cancelled)).commits locked =
            [] := by
          rw [commits_conclude_error, releaseAfter]
          exact commits_done () locked
        rw [commits_isolateAndMeasure htarget hroute hlock, hcommits, hkept, List.append_nil,
          Bus.flushed_of_queue_nil hidle, List.nil_append, Access.writesTo_append, hnone,
          List.append_nil]
        exact hrouting _ _

/-- The same of a call, whatever it does after its measurement: nothing of that waits. -/
theorem words_of_cancelled {α : Type} {rest : RoundTrip → Procedure α}
    (htarget : link.address.IsTarget) (hcontrol : link.controlSfp = true) (hrest : Follows rest)
    (hidle : bench.bus.queue = []) (hfault : bench.bus.fault = none)
    (hcancelled : ((link.measure design settings >>= rest).run bench).1 = .error .cancelled) :
    (Access.writesTo design.master.transmitters.controlPath
      ((link.measure design settings >>= rest).commits bench)).map Access.value =
        [0, link.address.value ||| TransmitterControl.enableBit] := by
  obtain ⟨address, controlSfp, channel?⟩ := link
  obtain rfl : controlSfp = true := hcontrol
  cases hmeasure : (Link.measure design settings ⟨address, true, channel?⟩).run bench with
  | mk result measured =>
    cases result with
    | ok roundTrip =>
      obtain ⟨value, after, hrun⟩ := hrest.ok roundTrip (fault_of_run hmeasure hfault)
      rw [run_bind_of_ok hmeasure, hrun] at hcancelled
      cases hcancelled
    | error e =>
      rw [run_bind_of_error hmeasure] at hcancelled
      cases hcancelled
      rw [commits_bind_of_error hmeasure]
      exact words_of_isolateAndMeasure_cancelled htarget hidle hfault hmeasure

/-- A failed link is handled without a wait, so every call ends with the refusal of one. -/
theorem escalates_perform (design : Design) (settings : CalibrationSettings) (call : Call) :
    (call.perform design settings).Escalates .cancelled := by
  have hfatal : Error.cancelled.isFatal := rfl
  refine Call.compositional (compositional_escalates hfatal) design settings call
    fun link _ htarget _ e _ => ?_
  have hunrefused : (((design.calibrationWith settings).release link.address).attempt).After
      .cancelled fun _ => False := by
    rw [release_eq htarget]
    exact After.attempt (after_cancelled_send _ fun _ => False) fun _ => False.elim
  exact hunrefused.bind (fun _ => False.elim) fun _ => trivial

/-- The endpoint whose transmitter a call controls, if it controls one. -/
def Call.controlled : Call → Option EndpointAddress
  | .measure address controlSfp _ | .measureDirect address controlSfp
  | .apply address _ _ controlSfp _ => if controlSfp then some address else none
  | .applyStored endpoint _ => some endpoint.address
  | .scan _ | .switchMux _ _ | .configure => none

/-- A call that controls a transmitter measures the link to its endpoint, or nothing cancels it. -/
theorem Call.measured_of_controlled (design : Design) (settings : CalibrationSettings) {call : Call}
    (h : call.controlled = some address) :
    (∃ channel?, call.measured = some ⟨address, true, channel?⟩) ∨
      (call.perform design settings).After .cancelled fun _ => False := by
  cases call with
  | measure own controlSfp channel? =>
    cases controlSfp with
    | false => cases h
    | true =>
      cases h
      exact Or.inl ⟨channel?, rfl⟩
  | measureDirect own controlSfp =>
    cases controlSfp with
    | false => cases h
    | true =>
      cases h
      exact Or.inl ⟨none, rfl⟩
  | apply own delay measureRtt controlSfp channel? =>
    cases controlSfp with
    | false => cases h
    | true =>
      cases h
      cases measureRtt with
      | false =>
        -- An application that does not measure does not wait.
        have honly := design.onlySends_apply settings address delay true channel?
        exact Or.inr honly.after_cancelled
      | true => exact Or.inl ⟨channel?, rfl⟩
  | applyStored endpoint measureRtt =>
    cases h
    cases measureRtt with
    | false =>
      have honly := design.onlySends_apply settings endpoint.address endpoint.delay true
        endpoint.muxChannel
      exact Or.inr honly.after_cancelled
    | true => exact Or.inl ⟨endpoint.muxChannel, rfl⟩
  | _ => cases h

/-- How a cancellation ends a call: with itself as the result, and with the transmitter that the
call controls, if it controls one, isolated and still on. -/
def Call.Cancelled (design : Design) (call : Call) (result : Except Error call.Result)
    (accesses : List Access) : Prop :=
  result = .error .cancelled ∧ ∀ address, call.controlled = some address →
    (Access.writesTo design.master.transmitters.controlPath accesses).map Access.value =
      [0, address.value ||| TransmitterControl.enableBit]

/-- Every call takes no notice of its cancellation, or it is ended by it. -/
theorem cancels_perform (design : Design) (settings : CalibrationSettings) (call : Call)
    (hidle : bench.bus.queue = []) (hfault : bench.bus.fault = none) (htoken : bench.token = {})
    (moment : Moment) :
    moment.Cancels (call.perform design settings) bench (call.Cancelled design) := by
  have hcancels := moment.cancels_of_escalates (escalates_perform design settings call)
    (paced_perform design settings call) hidle hfault htoken
  refine ⟨hcancels.commits, ?_⟩
  rcases hcancels.same_or_ended with hsame | ⟨hcancelled, htime, hlooks⟩
  · exact Or.inl hsame
  by_cases hcontrolled : ∃ address, call.controlled = some address
  · obtain ⟨address, hcontrolled⟩ := hcontrolled
    rcases Call.measured_of_controlled design settings hcontrolled with
      ⟨channel?, hmeasured⟩ | hunrefused
    · rcases call.perform_of_measured design settings hmeasured with
        ⟨-, e, -, hrefused⟩ | ⟨haccepts, rest, hrest, hperform⟩
      · -- A call that is refused does nothing that a cancellation could end.
        rw [hrefused]
        exact Or.inl ⟨rfl, rfl, rfl⟩
      · refine Or.inr ⟨⟨hcancelled, fun other hother => ?_⟩, htime, hlooks⟩
        obtain rfl : address = other := Option.some.inj (hcontrolled.symm.trans hother)
        rw [hperform] at hcancelled ⊢
        exact words_of_cancelled haccepts.target rfl hrest hidle hfault hcancelled
    · rcases run_on hunrefused hfault htoken moment with ⟨token, hrun⟩ | ⟨q, stop, hnever, -⟩
      · rw [hrun]
        exact Or.inl ⟨rfl, rfl, rfl⟩
      · exact hnever.elim
  · refine Or.inr ⟨⟨hcancelled, fun address haddress => ?_⟩, htime, hlooks⟩
    exact absurd ⟨address, haddress⟩ hcontrolled

/-- A run that is cancelled at any moment, compared with the run that is not, on a bench with an
empty queue and without a failure to come: every call, every echo and every restart of a receiver
either takes no notice, or it ends with the cancellation, at its very time, with a part of what the
other run commits and without a look at a status since. A call that controls a transmitter leaves it
on then. -/
theorem cancelled_run (design : Design) (hidle : bench.bus.queue = [])
    (hfault : bench.bus.fault = none) (htoken : bench.token = {}) (moment : Moment) :
    (∀ (settings : CalibrationSettings) (call : Call),
      moment.Cancels (call.perform design settings) bench (call.Cancelled design)) ∧
    (∀ trip : EchoTrip, moment.Cancels trip.run bench fun result _ =>
      ∃ after, result = .ok (.error .cancelled, after)) ∧
    ∀ receiver : UpstreamReceiver, moment.Cancels receiver.enable bench fun result _ =>
      result = .error .cancelled := by
  have hfatal : Error.cancelled.isFatal := rfl
  refine ⟨fun settings call => ?_, fun trip => ?_, fun receiver => ?_⟩
  · exact cancels_perform design settings call hidle hfault htoken moment
  · exact moment.cancels_of_after trip.after_cancelled_run (paced_trip trip) hidle hfault htoken
  · exact moment.cancels_of_escalates ((compositional_escalates hfatal).enable receiver)
      (compositional_paced.enable receiver) hidle hfault htoken

/-- The reference system, cancelled while it waits for the lock and while it sends an echo. -/
theorem cancelled_run_reference :
    (Moment.after 250).Cancels (reference.calibration.measure ⟨7⟩ true (some ⟨2⟩)) (answering 0)
        ((Call.measure ⟨7⟩ true (some ⟨2⟩)).Cancelled reference) ∧
      (Moment.during 0).Cancels (EchoTrip.run { monitor := reference.master.echo, options := {} })
        (answering 0) (fun result _ => ∃ after, result = .ok (.error .cancelled, after)) := by
  have hidle : (answering 0).bus.queue = [] := rfl
  have hfault : (answering 0).bus.fault = none := rfl
  have htoken : (answering 0).token = {} := rfl
  exact ⟨(cancelled_run reference hidle hfault htoken (.after 250)).1
      (.ofConfig reference.config) (.measure ⟨7⟩ true (some ⟨2⟩)),
    (cancelled_run reference hidle hfault htoken (.during 0)).2.1 _⟩

/-- The link settles for 200 ms, so after 250 ms the first wait for the lock is cancelled. -/
example :
    let p := (reference.calibration.measure ⟨7⟩ true (some ⟨2⟩)).run
      ((Moment.after 250).on (answering 0))
    p.1 = .error .cancelled ∧ p.2.clock = 250 := by
  exact ⟨rfl, rfl⟩

end Design

end OpticalTiming
