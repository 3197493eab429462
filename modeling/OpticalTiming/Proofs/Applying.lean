import OpticalTiming.Proofs.Keeping
import OpticalTiming.Proofs.Raising
import OpticalTiming.Proofs.Routing

/-!
# What a successful application writes

`Calibration.apply` measures if asked to, programs the delays and releases the transmitter if its
policy says so. `applied_of_ok` lists what is written when it succeeds, for every combination of its
flags and whatever the device does: the words in the control register of the transmitters, the
selected channels, and the delays, all in one dispatch between the measurement and the release.
-/

namespace OpticalTiming

open Procedure

namespace Design

variable {design : Design} {settings : CalibrationSettings} {address : EndpointAddress}
  {delay : DelayParameters} {measureRtt controlSfp : Bool} {channel? : Option MuxChannel}
  {bench after : Bench} {roundTrip? : Option RoundTrip}

/-! ### The parts of an application -/

/-- Whether an application ends with the release of its endpoint. -/
def releases (settings : CalibrationSettings) (measureRtt controlSfp : Bool)
    (channel? : Option MuxChannel) : Bool :=
  controlSfp && settings.releasePolicy.applies measureRtt channel?.isSome

/-- The end of an application: the release, if there is one. -/
def finish (design : Design) (settings : CalibrationSettings) (address : EndpointAddress)
    (release : Bool) (roundTrip? : Option RoundTrip) : Procedure (Option RoundTrip) := do
  if release then
    (design.calibrationWith settings).release address
  pure roundTrip?

/-- An application whose address and channel are valid. -/
def applySteps (design : Design) (settings : CalibrationSettings) (address : EndpointAddress)
    (delay : DelayParameters) (measureRtt controlSfp : Bool) (channel? : Option MuxChannel) :
    Procedure (Option RoundTrip) := do
  let roundTrip? ←
    (design.calibrationWith settings).measureIf measureRtt address controlSfp channel?
  send (design.master.delayLine.pairs address delay)
  design.finish settings address (releases settings measureRtt controlSfp channel?) roundTrip?

/-- An application of a valid address through a channel that the design has. -/
theorem apply_eq (settings : CalibrationSettings) (htarget : address.IsTarget)
    (hchannel : design.HasChannel channel?) :
    (design.calibrationWith settings).apply address delay measureRtt controlSfp channel? =
      design.applySteps settings address delay measureRtt controlSfp channel? := by
  have hcheck : (design.calibrationWith settings).checkChannel channel? = .ok () :=
    checkChannel_eq_ok_iff.mpr hchannel
  have hprogram : (design.calibrationWith settings).control.program address delay =
      send (design.master.delayLine.pairs address delay) :=
    DelayLine.program_eq _ htarget delay
  rw [Calibration.apply, EndpointAddress.checkTarget_eq_ok_iff.mpr htarget, hcheck, hprogram]
  rfl

/-- An application refuses its address or its channel by an error of its own, or it measures,
programs and releases. -/
theorem apply_raises_or (design : Design) (settings : CalibrationSettings)
    (address : EndpointAddress) (delay : DelayParameters) (measureRtt controlSfp : Bool)
    (channel? : Option MuxChannel) :
    (∃ e : Error, e.isRaised ∧
      (design.calibrationWith settings).apply address delay measureRtt controlSfp channel? =
        fail e) ∨
    (address.IsTarget ∧ design.HasChannel channel? ∧
      (design.calibrationWith settings).apply address delay measureRtt controlSfp channel? =
        design.applySteps settings address delay measureRtt controlSfp channel?) := by
  cases hcheck : address.checkTarget with
  | error e =>
    left
    rw [Calibration.apply, hcheck]
    exact ⟨e, raises_checkTarget address e hcheck, rfl⟩
  | ok u =>
    have htarget : address.IsTarget := EndpointAddress.checkTarget_eq_ok_iff.mp hcheck
    cases hchannel : (design.calibrationWith settings).checkChannel channel? with
    | error e =>
      left
      rw [Calibration.apply, hcheck, hchannel]
      exact ⟨e, raises_checkChannel _ channel? e hchannel, rfl⟩
    | ok u =>
      have hhas : design.HasChannel channel? := checkChannel_eq_ok_iff.mp hchannel
      exact Or.inr ⟨htarget, hhas, apply_eq settings htarget hhas⟩

/-- An application refuses its address or its channel, or it measures, programs and releases. -/
theorem apply_cases (design : Design) (settings : CalibrationSettings) (address : EndpointAddress)
    (delay : DelayParameters) (measureRtt controlSfp : Bool) (channel? : Option MuxChannel) :
    (∃ e, (design.calibrationWith settings).apply address delay measureRtt controlSfp channel? =
      fail e) ∨
    (address.IsTarget ∧ design.HasChannel channel? ∧
      (design.calibrationWith settings).apply address delay measureRtt controlSfp channel? =
        design.applySteps settings address delay measureRtt controlSfp channel?) :=
  (design.apply_raises_or settings address delay measureRtt controlSfp channel?).imp_left
    fun ⟨e, _, hrefused⟩ => ⟨e, hrefused⟩

/-! ### The measurement of an application -/

/-- A measurement that succeeds writes the words of its isolation and the channel that it selects,
and no delay. -/
theorem writes_of_isolateAndMeasure_ok {roundTrip : RoundTrip} (htarget : address.IsTarget)
    (hblocks : design.master.echo.block ≠ design.master.delayLine.block)
    (hidle : bench.bus.queue = [])
    (hrun : ((design.calibrationWith settings).isolateAndMeasure address controlSfp channel?).run
      bench = (.ok roundTrip, after)) :
    let accesses :=
      ((design.calibrationWith settings).isolateAndMeasure address controlSfp channel?).commits
        bench
    after.bus.queue = [] ∧
      (Access.writesTo design.master.transmitters.controlPath accesses).map Access.value =
        (if controlSfp then [0, address.value ||| TransmitterControl.enableBit] else []) ∧
      (∀ mux, design.mux = some mux →
        (Access.writesTo mux.selectPath accesses).map Access.value =
          channel?.toList.map MuxChannel.index) ∧
      ∀ a ∈ accesses, ¬ design.master.delayLine.IsWrittenBy a := by
  intro accesses
  obtain ⟨routed, hroute, hlock, hsplit⟩ := exists_of_isolateAndMeasure_ok htarget hrun
  obtain ⟨hrouted, -, hrouting⟩ := commits_route_of_ok htarget hidle hroute
  have hwithin := design.master.within_lockAndEcho address
  have haccesses : accesses =
      (design.routing address controlSfp channel?).map
        (.written (bench.bus.dispatches + 1) bench.clock) ++
          (design.master.lockAndEcho address).commits routed := by
    rw [← hrouting]
    exact hsplit
  have hdelays : ∀ a ∈ accesses, ¬ design.master.delayLine.IsWrittenBy a := by
    rintro a ha ⟨leaf, hleaf, hwrite⟩
    exact not_isWriteTo_of_within (within_isolateAndMeasure htarget) hidle
      (delay_notMem_measureFootprint hblocks hleaf) ha hwrite
  -- The echo writes none of the other registers, so everything is said by the routing.
  rw [haccesses] at hdelays ⊢
  refine ⟨Master.idle_of_lockAndEcho hrouted hlock, ?_, ?_, hdelays⟩
  · rw [Access.writesTo_append, Access.writesTo_written, filter_routing_control,
      writesTo_commits_of_within hwithin hrouted design.master.controlPath_notMem_linkFootprint,
      List.append_nil]
    cases controlSfp <;> rfl
  · intro mux hmux
    rw [Access.writesTo_append, Access.writesTo_written, filter_routing_select hmux,
      writesTo_commits_of_within hwithin hrouted
        (design.master.selectPath_notMem_linkFootprint mux), List.append_nil]
    cases channel? with
    | none => rfl
    | some channel =>
      rw [selection, hmux]
      rfl

/-- The measurement of an application, if there is one, writes the same. -/
theorem writes_of_measureIf_ok (htarget : address.IsTarget)
    (hblocks : design.master.echo.block ≠ design.master.delayLine.block)
    (hidle : bench.bus.queue = [])
    (hrun : ((design.calibrationWith settings).measureIf measureRtt address controlSfp
      channel?).run bench = (.ok roundTrip?, after)) :
    let accesses := ((design.calibrationWith settings).measureIf measureRtt address controlSfp
      channel?).commits bench
    after.bus.queue = [] ∧
      (Access.writesTo design.master.transmitters.controlPath accesses).map Access.value =
        (if measureRtt && controlSfp then
          [0, address.value ||| TransmitterControl.enableBit] else []) ∧
      (∀ mux, design.mux = some mux →
        (Access.writesTo mux.selectPath accesses).map Access.value =
          if measureRtt then channel?.toList.map MuxChannel.index else []) ∧
      ∀ a ∈ accesses, ¬ design.master.delayLine.IsWrittenBy a := by
  intro accesses
  cases measureRtt with
  | false =>
    have haccesses : accesses = [] := commits_done _ bench
    cases hrun
    rw [haccesses]
    refine ⟨hidle, rfl, fun _ _ => rfl, ?_⟩
    rintro a ⟨⟩
  | true =>
    obtain ⟨roundTrip, measured, hmeasure, hdone, hcommits⟩ := exists_of_run_bind_ok hrun
    cases hdone
    have haccesses : accesses = ((design.calibrationWith settings).isolateAndMeasure address
        controlSfp channel?).commits bench := by
      refine hcommits.trans ?_
      rw [pure_eq, commits_done, List.append_nil]
    rw [haccesses, Bool.true_and]
    exact writes_of_isolateAndMeasure_ok htarget hblocks hidle hmeasure

theorem isSome_of_measureIf_ok
    (hrun : ((design.calibrationWith settings).measureIf measureRtt address controlSfp
      channel?).run bench = (.ok roundTrip?, after)) : roundTrip?.isSome = measureRtt := by
  cases measureRtt with
  | false =>
    cases hrun
    rfl
  | true =>
    obtain ⟨roundTrip, measured, -, hdone, -⟩ := exists_of_run_bind_ok hrun
    cases hdone
    rfl

/-! ### The whole application -/

/-- What an application that succeeded has written. -/
structure Applied (design : Design) (settings : CalibrationSettings) (address : EndpointAddress)
    (delay : DelayParameters) (measureRtt controlSfp : Bool) (channel? : Option MuxChannel)
    (accesses : List Access) : Prop where
  /-- The words in the control register of the transmitters: the isolation for a measurement, then
  the release. -/
  transmitters :
    (Access.writesTo design.master.transmitters.controlPath accesses).map Access.value =
      (if measureRtt && controlSfp then
        [0, address.value ||| TransmitterControl.enableBit] else []) ++
      if controlSfp && (settings.releasePolicy = .always || measureRtt && channel?.isSome) then
        [address.value] else []
  /-- The selected channels: the one of the call if it measures. -/
  selections : ∀ mux, design.mux = some mux →
    (Access.writesTo mux.selectPath accesses).map Access.value =
      if measureRtt then channel?.toList.map MuxChannel.index else []
  /-- The delays are programmed in a dispatch of their own, after everything else but the
  release. -/
  delays : ∃ before number time rest,
    accesses = before ++
      (design.master.delayLine.pairs address delay).map (.written number time) ++ rest ∧
    (∀ a ∈ before, a.dispatch < number ∧ ¬ design.master.delayLine.IsWrittenBy a) ∧
    ∀ a ∈ rest, number < a.dispatch ∧ a.IsWriteTo design.master.transmitters.controlPath ∧
      ¬ design.master.delayLine.IsWrittenBy a

theorem releases_eq :
    releases settings measureRtt controlSfp channel? = (controlSfp &&
      (decide (settings.releasePolicy = .always) || measureRtt && channel?.isSome)) := by
  unfold releases
  cases settings.releasePolicy <;> rfl

/-- Programming delays writes no register whose leaf is apart from those of the delay line. -/
theorem writesTo_pairs {block : RegisterBlock} {leaf : String}
    (hapart : ∀ own ∈ DelayLine.leaves, RegisterBlock.Apart own leaf) (number time : Nat) :
    Access.writesTo (block.path leaf)
      ((design.master.delayLine.pairs address delay).map (.written number time)) = [] := by
  refine Access.writesTo_eq_nil fun a ha hwrite => ?_
  obtain ⟨pair, hpair, rfl⟩ := List.mem_map.mp ha
  obtain ⟨own, hown, hpath⟩ := DelayLine.exists_leaf_of_mem_pairs hpair
  rw [Access.isWriteTo_written, hpath] at hwrite
  exact RegisterBlock.path_ne_of_apart (hapart own hown) _ _ hwrite

theorem writesTo_control_pairs (number time : Nat) :
    Access.writesTo design.master.transmitters.controlPath
      ((design.master.delayLine.pairs address delay).map (.written number time)) = [] := by
  have hapart : ∀ own ∈ DelayLine.leaves, RegisterBlock.Apart own "csr.ctrl.tx" := by decide
  exact writesTo_pairs hapart number time

theorem writesTo_select_pairs (mux : FanoutMux) (number time : Nat) :
    Access.writesTo mux.selectPath
      ((design.master.delayLine.pairs address delay).map (.written number time)) = [] := by
  have hapart : ∀ own ∈ DelayLine.leaves, RegisterBlock.Apart own "csr.ctrl.mux" := by decide
  exact writesTo_pairs hapart number time

/-- The writes at the end of an application. -/
def finalWrites (design : Design) (address : EndpointAddress) (release : Bool) :
    List (String × UInt32) :=
  if release then [(design.master.transmitters.controlPath, address.value)] else []

/-- A release at the end of an application is one write. -/
theorem finish_true_eq (htarget : address.IsTarget) (value? : Option RoundTrip) :
    design.finish settings address true value? = (do
      send [(design.master.transmitters.controlPath, address.value)]
      pure value?) := by
  rw [← release_eq htarget]
  rfl

theorem commits_finish_of_ok (htarget : address.IsTarget) (hidle : bench.bus.queue = [])
    {release : Bool} {value? : Option RoundTrip}
    (hrun : (design.finish settings address release value?).run bench = (.ok roundTrip?, after)) :
    (design.finish settings address release value?).commits bench =
      (design.finalWrites address release).map
        (.written (bench.bus.dispatches + 1) bench.clock) := by
  cases release with
  | false => exact commits_done _ bench
  | true =>
    rw [finish_true_eq htarget] at hrun ⊢
    obtain ⟨_, released, hrelease, -, hcommits⟩ := exists_of_run_bind_ok hrun
    refine hcommits.trans ?_
    rw [(dispatched_of_send_ok hrelease).2, Bus.flushed_of_queue_nil hidle, pure_eq, commits_done,
      List.append_nil]
    rfl

theorem eq_of_finish_ok {release : Bool} {value? : Option RoundTrip}
    (hrun : (design.finish settings address release value?).run bench = (.ok roundTrip?, after)) :
    roundTrip? = value? := by
  cases release with
  | false =>
    cases hrun
    rfl
  | true =>
    obtain ⟨_, released, -, hdone, -⟩ := exists_of_run_bind_ok hrun
    cases hdone
    rfl

theorem path_of_mem_finalWrites {release : Bool} {pair : String × UInt32}
    (h : pair ∈ design.finalWrites address release) :
    pair.1 = design.master.transmitters.controlPath := by
  cases release with
  | false => cases h
  | true => rw [List.mem_singleton.mp h]

theorem writesTo_control_finalWrites (release : Bool) (number time : Nat) :
    (Access.writesTo design.master.transmitters.controlPath
      ((design.finalWrites address release).map (.written number time))).map Access.value =
        if release then [address.value] else [] := by
  cases release with
  | false => rfl
  | true =>
    show (Access.writesTo design.master.transmitters.controlPath [.written number time
      (design.master.transmitters.controlPath, address.value)]).map Access.value = _
    rw [Access.writesTo_written_self]
    rfl

theorem writesTo_select_finalWrites (mux : FanoutMux) (release : Bool) (number time : Nat) :
    Access.writesTo mux.selectPath
      ((design.finalWrites address release).map (.written number time)) = [] := by
  refine Access.writesTo_eq_nil fun a ha hwrite => ?_
  obtain ⟨pair, hpair, rfl⟩ := List.mem_map.mp ha
  rw [Access.isWriteTo_written, path_of_mem_finalWrites hpair] at hwrite
  exact controlPath_ne_selectPath _ mux hwrite

/-- An application that succeeds commits the accesses of its measurement, then the delays in a
dispatch of their own, and then the release, if there is one. -/
theorem exists_of_applySteps_ok (htarget : address.IsTarget)
    (hblocks : design.master.echo.block ≠ design.master.delayLine.block)
    (hidle : bench.bus.queue = [])
    (hrun : (design.applySteps settings address delay measureRtt controlSfp channel?).run bench =
      (.ok roundTrip?, after)) :
    ∃ measured programmed : Bench,
      ((design.calibrationWith settings).measureIf measureRtt address controlSfp channel?).run
        bench = (.ok roundTrip?, measured) ∧
      programmed.bus.dispatches = measured.bus.dispatches + 1 ∧
      (design.applySteps settings address delay measureRtt controlSfp channel?).commits bench =
        ((design.calibrationWith settings).measureIf measureRtt address controlSfp
          channel?).commits bench ++
        (design.master.delayLine.pairs address delay).map
          (.written (measured.bus.dispatches + 1) measured.clock) ++
        (design.finalWrites address (releases settings measureRtt controlSfp channel?)).map
          (.written (programmed.bus.dispatches + 1) programmed.clock) := by
  obtain ⟨value, measured, hmeasure, hrest, hcommits⟩ := exists_of_run_bind_ok hrun
  obtain ⟨⟨⟩, programmed, hprogram, hrelease, hcommits'⟩ := exists_of_run_bind_ok hrest
  obtain ⟨hdispatched, hpairs⟩ := dispatched_of_send_ok hprogram
  have hmeasured := (writes_of_measureIf_ok htarget hblocks hidle hmeasure).1
  have hlater := commits_finish_of_ok htarget hdispatched.queue hrelease
  have hvalue := eq_of_finish_ok hrelease
  rw [← hvalue] at hmeasure
  refine ⟨measured, programmed, hmeasure, hdispatched.dispatches, hcommits.trans ?_⟩
  rw [hcommits', hpairs, Bus.flushed_of_queue_nil hmeasured, List.nil_append, hlater,
    List.append_assoc]

/-- A successful application returns a measurement if it was asked for one, and has written what it
should, whatever its flags and whatever the device does. -/
theorem applied_of_ok (hblocks : design.master.echo.block ≠ design.master.delayLine.block)
    (hidle : bench.bus.queue = [])
    (hrun : ((design.calibrationWith settings).apply address delay measureRtt controlSfp
      channel?).run bench = (.ok roundTrip?, after)) :
    roundTrip?.isSome = measureRtt ∧
      design.Applied settings address delay measureRtt controlSfp channel?
        (((design.calibrationWith settings).apply address delay measureRtt controlSfp
          channel?).commits bench) := by
  rcases design.apply_cases settings address delay measureRtt controlSfp channel? with
    ⟨e, happly⟩ | ⟨htarget, -, happly⟩
  · rw [happly] at hrun
    cases hrun
  rw [happly] at hrun
  obtain ⟨measured, programmed, hmeasure, hlater, haccesses⟩ :=
    exists_of_applySteps_ok htarget hblocks hidle hrun
  obtain ⟨-, hwords, hselected, hnot⟩ := writes_of_measureIf_ok htarget hblocks hidle hmeasure
  have hcontrol : ∀ leaf ∈ DelayLine.leaves, RegisterBlock.Apart "csr.ctrl.tx" leaf := by decide
  -- Each of the three parts writes registers of its own, apart from the control register, which
  -- the measurement and the release share.
  rw [happly, haccesses]
  refine ⟨isSome_of_measureIf_ok hmeasure, ?_, ?_, _, _, _, _, rfl, ?_, ?_⟩
  · rw [Access.writesTo_append, Access.writesTo_append, writesTo_control_pairs, List.append_nil,
      List.map_append, hwords, writesTo_control_finalWrites, releases_eq]
  · intro mux hmux
    rw [Access.writesTo_append, Access.writesTo_append, writesTo_select_pairs,
      writesTo_select_finalWrites, List.append_nil, List.append_nil, hselected mux hmux]
  · intro a ha
    have hwindow := mem_commits ha
    rw [hmeasure] at hwindow
    exact ⟨Nat.lt_succ_of_le hwindow.1.2, hnot a ha⟩
  · intro a ha
    obtain ⟨pair, hpair, rfl⟩ := List.mem_map.mp ha
    have hpath := path_of_mem_finalWrites hpair
    refine ⟨?_, Access.isWriteTo_written.mpr hpath, ?_⟩
    · show measured.bus.dispatches + 1 < programmed.bus.dispatches + 1
      rw [hlater]
      exact Nat.lt_succ_self _
    · rintro ⟨leaf, hleaf, hwrite⟩
      rw [Access.isWriteTo_written, hpath] at hwrite
      exact RegisterBlock.path_ne_of_apart (hcontrol leaf hleaf) _ _ hwrite

/-- The writes of an application to the reference system that measures through a channel. -/
theorem applied_reference :
    ((reference.calibration.apply ⟨7⟩ ⟨40, 5, 6⟩ true true (some ⟨2⟩)).run (answering 0)).1 =
        .ok (some ⟨61⟩) ∧
      (some (⟨61⟩ : RoundTrip)).isSome = true ∧
      reference.Applied (.ofConfig reference.config) ⟨7⟩ ⟨40, 5, 6⟩ true true (some ⟨2⟩)
        ((reference.calibration.apply ⟨7⟩ ⟨40, 5, 6⟩ true true (some ⟨2⟩)).commits
          (answering 0)) := by
  have hblocks : reference.master.echo.block ≠ reference.master.delayLine.block := by decide
  have hok : ((reference.calibration.apply ⟨7⟩ ⟨40, 5, 6⟩ true true (some ⟨2⟩)).run
      (answering 0)).1 = .ok (some ⟨61⟩) := by rfl
  exact ⟨hok, applied_of_ok hblocks rfl (Prod.ext hok rfl)⟩

end Design

end OpticalTiming
