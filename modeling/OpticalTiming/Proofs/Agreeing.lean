import OpticalTiming.Proofs.Applying

/-!
# Measuring on its own and measuring to program

A round trip can be measured on its own, or by an application that programs delays afterwards. A
direct measurement on its own is the master's; every other one is put together by the calibration.
Nevertheless both calls refuse the same arguments (`apply_refused`, `measure_noChannel`), and both
begin with the same measurement (`measure_eq`, `applySteps_measured`). They differ in what follows
it: `run_ending` says what a release adds, and `agrees_apply` that the application fails as the
measurement does, and otherwise has its journal with the delays put in before the release.
-/

namespace OpticalTiming

open Procedure

namespace Design

variable {design : Design} {settings : CalibrationSettings} {address : EndpointAddress}
  {delay : DelayParameters} {measureRtt controlSfp : Bool} {channel? : Option MuxChannel}
  {bench : Bench}

/-! ### Refused arguments -/

/-- An application refuses an address that names no endpoint. -/
theorem apply_refused {e : Error} (h : address.checkTarget = .error e) :
    (design.calibrationWith settings).apply address delay measureRtt controlSfp channel? =
      fail e := by
  rw [Calibration.apply, h]
  rfl

/-- An application refuses a channel that the design does not have. -/
theorem apply_noChannel {e : Error} (htarget : address.IsTarget)
    (h : (design.calibrationWith settings).checkChannel channel? = .error e) :
    (design.calibrationWith settings).apply address delay measureRtt controlSfp channel? =
      fail e := by
  rw [Calibration.apply, EndpointAddress.checkTarget_eq_ok_iff.mpr htarget, h]
  rfl

/-- A measurement refuses it too, when it comes to selecting the channel. -/
theorem measure_noChannel {e : Error} (htarget : address.IsTarget)
    (h : (design.calibrationWith settings).checkChannel channel? = .error e) :
    (design.calibrationWith settings).measure address controlSfp channel? = fail e := by
  rw [measure_eq htarget, isolateAndMeasure_eq htarget, route_refused h]
  rfl

/-! ### What follows the measurement -/

/-- An application that measures begins with the measurement. -/
theorem applySteps_measured :
    design.applySteps settings address delay true controlSfp channel? = (do
      let roundTrip ←
        (design.calibrationWith settings).isolateAndMeasure address controlSfp channel?
      send (design.master.delayLine.pairs address delay)
      design.finish settings address (releases settings true controlSfp channel?)
        (some roundTrip)) :=
  Procedure.bind_assoc _ _ _

/-- The release at the end of a call, if there is one, takes no time and is a dispatch of its
own. -/
theorem run_ending {α : Type} (settings : CalibrationSettings) (htarget : address.IsTarget)
    (hidle : bench.bus.queue = []) (hfault : bench.bus.fault = none) (release : Bool) (value : α) :
    let ending : Procedure α := do
      if release then
        (design.calibrationWith settings).release address
      pure value
    ∃ after, ending.run bench = (.ok value, after) ∧ after.clock = bench.clock ∧
      ending.commits bench = (design.finalWrites address release).map
        (.written (bench.bus.dispatches + 1) bench.clock) := by
  intro ending
  cases release with
  | false => exact ⟨bench, rfl, rfl, commits_done value bench⟩
  | true =>
    have hrelease : (design.calibrationWith settings).release address =
        send [(design.master.transmitters.controlPath, address.value)] := release_eq htarget
    have hending : ending = (do
        send [(design.master.transmitters.controlPath, address.value)]
        pure value) := by
      rw [← hrelease]
      rfl
    obtain ⟨after, hsend, hdispatched, hcommits⟩ :=
      run_send_of_healthy [(design.master.transmitters.controlPath, address.value)] hfault
    rw [Bus.flushed_of_queue_nil hidle, List.nil_append] at hcommits
    refine ⟨after, ?_, hdispatched.clock, ?_⟩
    · rw [hending, run_bind_of_ok hsend]
      rfl
    · rw [hending, commits_bind_of_ok hsend, hcommits, pure_eq, commits_done, List.append_nil]
      rfl

/-! ### The two calls -/

/-- How an application that measures compares with the measurement on its own, on one bench. -/
structure Agrees (design : Design) (settings : CalibrationSettings) (address : EndpointAddress)
    (delay : DelayParameters) (controlSfp : Bool) (channel? : Option MuxChannel) (bench : Bench) :
    Prop where
  /-- A measurement that fails is all that the application does. -/
  failed : ∀ e after,
    ((design.calibrationWith settings).measure address controlSfp channel?).run bench =
      (.error e, after) →
    ((design.calibrationWith settings).apply address delay true controlSfp channel?).run bench =
      (.error e, after)
  /-- After a measurement that succeeds the application succeeds with the same round trip and at the
  same time. Both have committed what the measurement itself commits; then comes the release if
  transmitters are controlled, and in an application the delays before it, and the release only if
  the policy keeps it. -/
  succeeded : ∀ roundTrip after,
    ((design.calibrationWith settings).measure address controlSfp channel?).run bench =
      (.ok roundTrip, after) →
    ∃ measured applied,
      ((design.calibrationWith settings).isolateAndMeasure address controlSfp channel?).run bench =
        (.ok roundTrip, measured) ∧
      ((design.calibrationWith settings).apply address delay true controlSfp channel?).run bench =
        (.ok (some roundTrip), applied) ∧
      after.clock = measured.clock ∧ applied.clock = measured.clock ∧
      ((design.calibrationWith settings).measure address controlSfp channel?).commits bench =
        ((design.calibrationWith settings).isolateAndMeasure address controlSfp channel?).commits
          bench ++
        (design.finalWrites address controlSfp).map
          (.written (measured.bus.dispatches + 1) measured.clock) ∧
      ((design.calibrationWith settings).apply address delay true controlSfp channel?).commits
          bench =
        ((design.calibrationWith settings).isolateAndMeasure address controlSfp channel?).commits
          bench ++
        (design.master.delayLine.pairs address delay).map
          (.written (measured.bus.dispatches + 1) measured.clock) ++
        (design.finalWrites address
          (controlSfp && (decide (settings.releasePolicy = .always) || channel?.isSome))).map
            (.written (measured.bus.dispatches + 2) measured.clock)

/-- Two calls that do nothing but fail agree. -/
theorem agrees_of_fail {e : Error}
    (hmeasure : (design.calibrationWith settings).measure address controlSfp channel? = fail e)
    (happly : (design.calibrationWith settings).apply address delay true controlSfp channel? =
      fail e) : design.Agrees settings address delay controlSfp channel? bench := by
  constructor
  · intro e' after hrun
    rw [hmeasure] at hrun
    rw [happly]
    cases hrun
    rfl
  · intro roundTrip after hrun
    rw [hmeasure] at hrun
    cases hrun

/-- A measurement of a valid link leaves nothing in the queue and arms no failure. -/
theorem idle_of_isolateAndMeasure_ok {roundTrip : RoundTrip} {measured : Bench}
    (htarget : address.IsTarget) (hidle : bench.bus.queue = []) (hfault : bench.bus.fault = none)
    (hrun : ((design.calibrationWith settings).isolateAndMeasure address controlSfp channel?).run
      bench = (.ok roundTrip, measured)) :
    measured.bus.queue = [] ∧ measured.bus.fault = none := by
  obtain ⟨routed, hroute, hlock, -⟩ := exists_of_isolateAndMeasure_ok htarget hrun
  have hrouted : routed.bus.queue = [] := (commits_route_of_ok htarget hidle hroute).1
  exact ⟨Master.idle_of_lockAndEcho hrouted hlock, fault_of_run hrun hfault⟩

/-- A measurement and an application of a valid address through a channel that the design has. -/
theorem agrees_of_valid (settings : CalibrationSettings) (delay : DelayParameters)
    (controlSfp : Bool) (htarget : address.IsTarget) (hchannel : design.HasChannel channel?)
    (hidle : bench.bus.queue = []) (hfault : bench.bus.fault = none) :
    design.Agrees settings address delay controlSfp channel? bench := by
  have hmeasure : (design.calibrationWith settings).measure address controlSfp channel? = _ :=
    measure_eq htarget
  have happly :
      (design.calibrationWith settings).apply address delay true controlSfp channel? = _ :=
    (apply_eq settings htarget hchannel).trans applySteps_measured
  -- Both calls go through the measurement, so they part only where it has ended.
  cases hrun : ((design.calibrationWith settings).isolateAndMeasure address controlSfp
      channel?).run bench with
  | mk result measured =>
    cases result with
    | error e =>
      have hmeasured := (congrArg (·.run bench) hmeasure).trans (run_bind_of_error hrun _)
      have happlied := (congrArg (·.run bench) happly).trans (run_bind_of_error hrun _)
      constructor
      · intro e' after hfailed
        cases hmeasured.symm.trans hfailed
        exact happlied
      · intro roundTrip after hok
        cases hmeasured.symm.trans hok
    | ok roundTrip =>
      obtain ⟨hqueue, hnone⟩ := idle_of_isolateAndMeasure_ok htarget hidle hfault hrun
      obtain ⟨left, hleft, hleftClock, hleftCommits⟩ :=
        run_ending settings htarget hqueue hnone controlSfp roundTrip
      obtain ⟨programmed, hprogram, hdispatched, hdelays⟩ :=
        run_send_of_healthy (design.master.delayLine.pairs address delay) hnone
      have hprogrammed : programmed.bus.fault = none := by
        rw [hdispatched.fault, hnone]
        rfl
      obtain ⟨applied, hfinish, happliedClock, happliedCommits⟩ :=
        run_ending settings htarget hdispatched.queue hprogrammed
          (releases settings true controlSfp channel?) (some roundTrip)
      rw [Bus.flushed_of_queue_nil hqueue, List.nil_append] at hdelays
      have hmeasured := (congrArg (·.run bench) hmeasure).trans
        ((run_bind_of_ok hrun _).trans hleft)
      constructor
      · intro e after hfailed
        cases hmeasured.symm.trans hfailed
      · intro roundTrip' after hok
        cases hmeasured.symm.trans hok
        refine ⟨measured, applied, hrun, ?_, hleftClock, ?_, ?_, ?_⟩
        · rw [happly, run_bind_of_ok hrun, run_bind_of_ok hprogram]
          exact hfinish
        · rw [happliedClock, hdispatched.clock]
        · rw [hmeasure, commits_bind_of_ok hrun, hleftCommits]
        · have hfinished : (design.finish settings address
              (releases settings true controlSfp channel?) (some roundTrip)).commits programmed =
                _ := happliedCommits
          rw [happly, commits_bind_of_ok hrun, commits_bind_of_ok hprogram, hdelays, hfinished,
            releases_eq, Bool.true_and, hdispatched.dispatches, hdispatched.clock,
            List.append_assoc]

/-- On a bench with an empty queue and without a failure to come, an application that measures
agrees with the measurement on its own, whatever its arguments, the device and a cancellation. -/
theorem agrees_apply (design : Design) (settings : CalibrationSettings) (address : EndpointAddress)
    (delay : DelayParameters) (controlSfp : Bool) (channel? : Option MuxChannel)
    (hidle : bench.bus.queue = []) (hfault : bench.bus.fault = none) :
    design.Agrees settings address delay controlSfp channel? bench := by
  cases haddress : address.checkTarget with
  | error e => exact agrees_of_fail (measure_refused haddress) (apply_refused haddress)
  | ok u =>
    have htarget : address.IsTarget := EndpointAddress.checkTarget_eq_ok_iff.mp haddress
    cases hcheck : (design.calibrationWith settings).checkChannel channel? with
    | error e =>
      exact agrees_of_fail (measure_noChannel htarget hcheck) (apply_noChannel htarget hcheck)
    | ok u =>
      have hchannel : design.HasChannel channel? := checkChannel_eq_ok_iff.mp hcheck
      exact agrees_of_valid settings delay controlSfp htarget hchannel hidle hfault

/-- The reference system measures a direct link of 61 ticks, on its own and to program its delays;
the policy keeps the release only for the measurement. -/
theorem agrees_apply_reference :
    (answering 0).bus.queue = [] ∧ (answering 0).bus.fault = none ∧
      ((reference.calibration.measure ⟨7⟩ true none).run (answering 0)).1 = .ok ⟨61⟩ ∧
      reference.Agrees (.ofConfig reference.config) ⟨7⟩ ⟨40, 5, 6⟩ true none (answering 0) := by
  have hok : ((reference.calibration.measure ⟨7⟩ true none).run (answering 0)).1 = .ok ⟨61⟩ := by
    rfl
  exact ⟨rfl, rfl, hok, agrees_apply reference (.ofConfig reference.config) ⟨7⟩ ⟨40, 5, 6⟩ true
    none rfl rfl⟩

end Design

end OpticalTiming
