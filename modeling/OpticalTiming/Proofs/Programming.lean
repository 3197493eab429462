import OpticalTiming.Proofs.Harmless
import OpticalTiming.Proofs.Issuing

/-!
# Programming delays as a whole or not at all

An application writes the six registers of the delay line in one dispatch, after the measurement if
there is one. A measurement touches none of them, however it ends (`within_isolateAndMeasure`), and
neither does the release at the end. `applying` follows an application to each of its exits, and
`programs_apply` draws the conclusion: the delays are programmed as a whole or not at all, never
after a failed measurement, and once they are programmed only a refused release fails the call.
-/

namespace OpticalTiming

open Procedure

namespace Design

variable {design : Design} {settings : CalibrationSettings} {address : EndpointAddress}
  {delay : DelayParameters} {measureRtt controlSfp : Bool} {channel? : Option MuxChannel}
  {bench after : Bench} {roundTrip? : Option RoundTrip}

/-! ### What writes the delay line -/

/-- Whether a list of accesses has one that writes the delay line. -/
def WritesDelay (design : Design) (accesses : List Access) : Prop :=
  ∃ a ∈ accesses, design.master.delayLine.IsWrittenBy a

/-- What stays within the registers of a measurement writes no delay. -/
theorem not_writesDelay_of_within {α : Type} {p : Procedure α}
    (hblocks : design.master.echo.block ≠ design.master.delayLine.block)
    (hidle : bench.bus.queue = []) (hp : p.Within design.measureFootprint) :
    ¬ design.WritesDelay (p.commits bench) := by
  rintro ⟨a, ha, leaf, hleaf, hwrite⟩
  exact not_isWriteTo_of_within hp hidle (delay_notMem_measureFootprint hblocks hleaf) ha hwrite

theorem within_measureIf (htarget : address.IsTarget) :
    ((design.calibrationWith settings).measureIf measureRtt address controlSfp channel?).Within
      design.measureFootprint := by
  cases measureRtt with
  | false => trivial
  | true => exact (within_isolateAndMeasure htarget).bind fun _ => trivial

theorem within_finish (htarget : address.IsTarget) (release : Bool) :
    (design.finish settings address release roundTrip?).Within design.measureFootprint := by
  cases release with
  | false => trivial
  | true =>
    exact (within_release htarget design.controlPath_mem_measureFootprint).bind fun _ => trivial

/-! ### The exits of an application -/

/-- The end of an application succeeds, unless it is a release whose dispatch is refused. -/
theorem finish_cases (settings : CalibrationSettings) (htarget : address.IsTarget)
    (hidle : bench.bus.queue = []) (release : Bool) (roundTrip? : Option RoundTrip) :
    (∃ after, (design.finish settings address release roundTrip?).run bench =
      (.ok roundTrip?, after)) ∨
    (release = true ∧ ∃ message stop,
      (design.finish settings address release roundTrip?).run bench =
        (.error (.bus message), stop.dropQueue) ∧
      (design.finish settings address release roundTrip?).issues bench = [stop] ∧
      stop.bus.queue = [.write design.master.transmitters.controlPath address.value] ∧
      stop.bus.fault = some { remaining := 0, message }) := by
  cases release with
  | false => exact Or.inl ⟨bench, rfl⟩
  | true =>
    let stop := bench.enqueue [.write design.master.transmitters.controlPath address.value]
    have hrun : (send [(design.master.transmitters.controlPath, address.value)]).run bench =
        stop.dispatch := run_send _ bench
    rw [finish_true_eq htarget]
    rcases stop.dispatch_cases with ⟨message, hfault, hdispatch⟩ | ⟨-, hdispatch⟩
    · rw [hdispatch] at hrun
      refine Or.inr ⟨rfl, message, stop, run_bind_of_error hrun _, ?_, ?_, hfault⟩
      · rw [issues_bind_of_error hrun, issues_send]
        rfl
      · show bench.bus.queue ++ _ = _
        rw [hidle, List.nil_append]
    · rw [hdispatch] at hrun
      exact Or.inl ⟨_, run_bind_of_ok hrun _⟩

/-- How an application of a valid address ends: it fails before its delays are written, or they are
written between its measurement and its end. -/
inductive Applying (design : Design) (settings : CalibrationSettings) (address : EndpointAddress)
    (delay : DelayParameters) (measureRtt controlSfp : Bool) (channel? : Option MuxChannel)
    (bench : Bench) : Prop
  /-- The measurement fails, or the dispatch of the delays is refused. -/
  | unprogrammed (e : Error) (after : Bench)
      (run : (design.applySteps settings address delay measureRtt controlSfp channel?).run bench =
        (.error e, after))
      (unwritten : ¬ design.WritesDelay
        ((design.applySteps settings address delay measureRtt controlSfp channel?).commits bench))
  | programmed (roundTrip? : Option RoundTrip) (programmed : Bench)
      (idle : programmed.bus.queue = [])
      (run : (design.applySteps settings address delay measureRtt controlSfp channel?).run bench =
        (design.finish settings address (releases settings measureRtt controlSfp channel?)
          roundTrip?).run programmed)
      (issues : ∃ earlier,
        (design.applySteps settings address delay measureRtt controlSfp channel?).issues bench =
          earlier ++ (design.finish settings address
            (releases settings measureRtt controlSfp channel?) roundTrip?).issues programmed)
      (commits : ∃ before number time rest,
        (design.applySteps settings address delay measureRtt controlSfp channel?).commits bench =
          before ++ (design.master.delayLine.pairs address delay).map (.written number time) ++
            rest ∧
        (∀ a ∈ before, a.dispatch < number) ∧ (∀ a ∈ rest, number < a.dispatch) ∧
        ¬ design.WritesDelay before ∧ ¬ design.WritesDelay rest)

/-- An application of a valid address ends in one of these ways, if nothing is queued before it. -/
theorem applying (design : Design) (settings : CalibrationSettings) (htarget : address.IsTarget)
    (delay : DelayParameters) (measureRtt controlSfp : Bool) (channel? : Option MuxChannel)
    (hblocks : design.master.echo.block ≠ design.master.delayLine.block)
    (hidle : bench.bus.queue = []) :
    design.Applying settings address delay measureRtt controlSfp channel? bench := by
  let measurement :=
    (design.calibrationWith settings).measureIf measureRtt address controlSfp channel?
  let program := send (design.master.delayLine.pairs address delay)
  have hunwritten : ¬ design.WritesDelay (measurement.commits bench) :=
    not_writesDelay_of_within hblocks hidle (within_measureIf htarget)
  cases hmeasure : measurement.run bench with
  | mk result measured =>
    cases result with
    | error e =>
      have hcommits : (design.applySteps settings address delay measureRtt controlSfp
          channel?).commits bench = measurement.commits bench := commits_bind_of_error hmeasure _
      exact .unprogrammed e measured (run_bind_of_error hmeasure _) (by rwa [hcommits])
    | ok roundTrip? =>
      have hmeasured : measured.bus.queue = [] :=
        (writes_of_measureIf_ok htarget hblocks hidle hmeasure).1
      cases exchange_send (design.master.delayLine.pairs address delay) measured with
      | refused message after fault run refused commits =>
        have hcommits : (design.applySteps settings address delay measureRtt controlSfp
            channel?).commits bench = measurement.commits bench := by
          refine (commits_bind_of_ok hmeasure _).trans ?_
          rw [commits_bind_of_error run, commits, List.append_nil]
        exact .unprogrammed (.bus message) after
          ((run_bind_of_ok hmeasure _).trans (run_bind_of_error run _)) (by rwa [hcommits])
      | committed result accesses programmed fault run dispatched commits outcome =>
        obtain ⟨rfl, rfl⟩ := outcome
        let ending := design.finish settings address
          (releases settings measureRtt controlSfp channel?) roundTrip?
        have hending : ¬ design.WritesDelay (ending.commits programmed) :=
          not_writesDelay_of_within hblocks dispatched.queue (within_finish htarget _)
        refine .programmed roundTrip? programmed dispatched.queue
          ((run_bind_of_ok hmeasure _).trans (run_bind_of_ok run _))
          ⟨measurement.issues bench ++ program.issues measured, ?_⟩
          ⟨measurement.commits bench, measured.bus.dispatches + 1, measured.clock,
            ending.commits programmed, ?_, ?_, ?_, hunwritten, hending⟩
        · refine (issues_bind_of_ok hmeasure _).trans ?_
          rw [issues_bind_of_ok run, List.append_assoc]
        · refine (commits_bind_of_ok hmeasure _).trans ?_
          rw [commits_bind_of_ok run, commits, Bus.flushed_of_queue_nil hmeasured, List.nil_append,
            List.append_assoc]
        · intro a ha
          have hnumber := (mem_commits ha).1.2
          rw [hmeasure] at hnumber
          exact Nat.lt_succ_of_le hnumber
        · intro a ha
          have hnumber := (mem_commits ha).1.1
          rwa [dispatched.dispatches] at hnumber

/-! ### Delays as a whole or not at all -/

/-- What is known of the delays after a call that applies them, however it ends. -/
structure Programs (design : Design) (settings : CalibrationSettings) (address : EndpointAddress)
    (delay : DelayParameters) (measureRtt controlSfp : Bool) (channel? : Option MuxChannel)
    (p : Procedure (Option RoundTrip)) (bench : Bench) : Prop where
  /-- No delay is written, or one dispatch consists of all the writes that program the delays, and
  no other one writes the delay line. -/
  whole : ¬ design.WritesDelay (p.commits bench) ∨ ∃ number time,
    (p.commits bench).filter (·.dispatch = number) =
      (design.master.delayLine.pairs address delay).map (.written number time) ∧
    ∀ a ∈ p.commits bench, design.master.delayLine.IsWrittenBy a → a.dispatch = number
  /-- A call that refuses its address or its channel does nothing, so it does not measure either. -/
  invalid : ¬ (address.IsTarget ∧ design.HasChannel channel?) →
    ∃ e, p.run bench = (.error e, bench)
  /-- A measurement that fails is the end of the call, and no delay is written. -/
  unmeasured : measureRtt = true → address.IsTarget → design.HasChannel channel? →
    ∀ e after, ((design.calibrationWith settings).isolateAndMeasure address controlSfp
      channel?).run bench = (.error e, after) →
      p.run bench = (.error e, after) ∧ ¬ design.WritesDelay (p.commits bench)
  /-- A call that fails although its delays were written fails at its last dispatch, which is the
  release of its endpoint. -/
  unreleased : ∀ e after, p.run bench = (.error e, after) →
    design.WritesDelay (p.commits bench) →
    controlSfp = true ∧ settings.releasePolicy.applies measureRtt channel?.isSome = true ∧
      ∃ message stop, e = .bus message ∧ (p.issues bench).getLast? = some stop ∧
        stop.bus.queue = [.write design.master.transmitters.controlPath address.value] ∧
        stop.bus.fault = some { remaining := 0, message } ∧ after = stop.dropQueue

/-- The accesses of one dispatch, between those of earlier dispatches and those of later ones. -/
theorem filter_dispatch {before rest : List Access} {number : Nat}
    (hbefore : ∀ a ∈ before, a.dispatch < number) (hrest : ∀ a ∈ rest, number < a.dispatch)
    (pairs : List (String × UInt32)) (time : Nat) :
    (before ++ pairs.map (Access.written number time) ++ rest).filter (·.dispatch = number) =
      pairs.map (.written number time) := by
  have hother : ∀ a ∈ before, ¬ decide (a.dispatch = number) = true := by
    intro a ha heq
    exact Nat.ne_of_lt (hbefore a ha) (of_decide_eq_true heq)
  have hown : ∀ a ∈ pairs.map (Access.written number time),
      decide (a.dispatch = number) = true := by
    intro a ha
    obtain ⟨pair, -, rfl⟩ := List.mem_map.mp ha
    exact decide_eq_true rfl
  have hother' : ∀ a ∈ rest, ¬ decide (a.dispatch = number) = true := by
    intro a ha heq
    exact Nat.ne_of_gt (hrest a ha) (of_decide_eq_true heq)
  rw [List.append_assoc, Access.filter_append_right hother, Access.filter_append_left hown hother']

/-- A call that refuses its arguments writes nothing at all. -/
theorem programs_fail {e : Error}
    (hinvalid : ¬ (address.IsTarget ∧ design.HasChannel channel?)) :
    design.Programs settings address delay measureRtt controlSfp channel? (fail e) bench := by
  have hnone : ¬ design.WritesDelay ((fail e : Procedure (Option RoundTrip)).commits bench) := by
    rw [commits_fail]
    rintro ⟨a, ha, -⟩
    cases ha
  refine ⟨Or.inl hnone, fun _ => ⟨e, run_fail e bench⟩, fun _ htarget hchannel => ?_,
    fun _ _ _ hwrites => absurd hwrites hnone⟩
  exact absurd ⟨htarget, hchannel⟩ hinvalid

theorem programs_applySteps (settings : CalibrationSettings) (htarget : address.IsTarget)
    (hchannel : design.HasChannel channel?)
    (hblocks : design.master.echo.block ≠ design.master.delayLine.block)
    (hidle : bench.bus.queue = []) :
    design.Programs settings address delay measureRtt controlSfp channel?
      (design.applySteps settings address delay measureRtt controlSfp channel?) bench := by
  have hexit := design.applying settings htarget delay measureRtt controlSfp channel? hblocks hidle
  refine ⟨?_, fun hinvalid => absurd ⟨htarget, hchannel⟩ hinvalid, ?_, ?_⟩
  · cases hexit with
    | unprogrammed e after run unwritten => exact Or.inl unwritten
    | programmed roundTrip? programmed idle run issues commits =>
      obtain ⟨before, number, time, rest, hcommits, hbefore, hrest, hnot, hnot'⟩ := commits
      rw [hcommits]
      refine Or.inr ⟨number, time, filter_dispatch hbefore hrest _ _, fun a ha hwrite => ?_⟩
      rcases List.mem_append.mp ha with ha | ha
      · rcases List.mem_append.mp ha with ha | ha
        · exact absurd ⟨a, ha, hwrite⟩ hnot
        · obtain ⟨pair, -, rfl⟩ := List.mem_map.mp ha
          rfl
      · exact absurd ⟨a, ha, hwrite⟩ hnot'
  · rintro rfl - - e after hmeasure
    have hfailed : ((design.calibrationWith settings).measureIf true address controlSfp
        channel?).run bench = (.error e, after) := run_bind_of_error hmeasure _
    have hcommits : (design.applySteps settings address delay true controlSfp channel?).commits
        bench = _ := commits_bind_of_error hfailed _
    rw [hcommits]
    exact ⟨run_bind_of_error hfailed _,
      not_writesDelay_of_within hblocks hidle (within_measureIf htarget)⟩
  · intro e after hrun hwrites
    cases hexit with
    | unprogrammed e after run unwritten => exact absurd hwrites unwritten
    | programmed roundTrip? programmed idle run issues commits =>
      rw [run] at hrun
      rcases finish_cases settings htarget idle (releases settings measureRtt controlSfp channel?)
        roundTrip? with ⟨after, hok⟩ | ⟨hrelease, message, stop, hrefused, hlast, hqueue, hfault⟩
      · rw [hok] at hrun
        cases hrun
      · rw [hrefused] at hrun
        cases hrun
        obtain ⟨hcontrol, hpolicy⟩ := Bool.and_eq_true_iff.mp hrelease
        obtain ⟨earlier, hissues⟩ := issues
        refine ⟨hcontrol, hpolicy, message, stop, rfl, ?_, hqueue, hfault, rfl⟩
        rw [hissues, hlast, List.getLast?_concat]

/-- However an application ends, and whatever the device and the bench do, the delays are programmed
as a whole or not at all, never after a measurement that failed, and once they are programmed only
the refusal of the release fails the call. -/
theorem programs_apply (settings : CalibrationSettings)
    (hblocks : design.master.echo.block ≠ design.master.delayLine.block)
    (hidle : bench.bus.queue = []) :
    (∀ address delay measureRtt controlSfp channel?,
      design.Programs settings address delay measureRtt controlSfp channel?
        ((design.calibrationWith settings).apply address delay measureRtt controlSfp channel?)
        bench) ∧
    ∀ (endpoint : StoredCalibration) (measureRtt : Bool),
      design.Programs settings endpoint.address endpoint.delay measureRtt true endpoint.muxChannel
        ((design.calibrationWith settings).applyStored endpoint measureRtt) bench := by
  have happly : ∀ address delay measureRtt controlSfp channel?,
      design.Programs settings address delay measureRtt controlSfp channel?
        ((design.calibrationWith settings).apply address delay measureRtt controlSfp channel?)
        bench := by
    intro address delay measureRtt controlSfp channel?
    by_cases hvalid : address.IsTarget ∧ design.HasChannel channel?
    · rw [apply_eq settings hvalid.1 hvalid.2]
      exact programs_applySteps settings hvalid.1 hvalid.2 hblocks hidle
    · rcases design.apply_cases settings address delay measureRtt controlSfp channel? with
        ⟨e, hfail⟩ | ⟨htarget, hchannel, -⟩
      · rw [hfail]
        exact programs_fail hvalid
      · exact absurd ⟨htarget, hchannel⟩ hvalid
  exact ⟨happly, fun endpoint measureRtt => happly _ _ measureRtt true endpoint.muxChannel⟩

/-- The law on a bench of the reference system whose third dispatch is refused. -/
theorem programs_apply_reference :
    (∀ address delay measureRtt controlSfp channel?,
      reference.Programs (.ofConfig reference.config) address delay measureRtt controlSfp channel?
        (reference.calibration.apply address delay measureRtt controlSfp channel?)
        ((answering 0).failing 2 "line lost")) ∧
    ∀ (endpoint : StoredCalibration) (measureRtt : Bool),
      reference.Programs (.ofConfig reference.config) endpoint.address endpoint.delay measureRtt
        true endpoint.muxChannel (reference.calibration.applyStored endpoint measureRtt)
        ((answering 0).failing 2 "line lost") :=
  programs_apply _ (by decide) rfl

end Design

end OpticalTiming
