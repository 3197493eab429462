import OpticalTiming.Proofs.Excerpt
import OpticalTiming.Proofs.Firmware

/-!
# Putting an endpoint on the link

A calibration puts an endpoint on the link by one dispatch of writes, `Design.routing`, and lets the
link settle if a channel was selected. `Routed` names the ways in which this can end and what is
committed in each of them, on any bench (`exists_routed`).

Direct measurements are the master's own, measurements through a channel are put together by the
calibration; `measure_eq` and `master_measure_eq` say that both are the same sequence of steps.
However a measurement ends, it stays within `measureFootprint` (`within_isolateAndMeasure`).
-/

namespace OpticalTiming

open Procedure

namespace Design

variable {design : Design} {settings : CalibrationSettings} {address : EndpointAddress}
  {controlSfp : Bool} {channel? : Option MuxChannel} {bench : Bench}

/-! ### Channels of a design -/

/-- Whether a design can put an endpoint on the link through a channel, or directly. -/
def HasChannel (design : Design) : Option MuxChannel → Prop
  | none => True
  | some channel => ∃ mux, design.mux = some mux ∧ channel.index < mux.count

theorem checkChannel_mux_iff {mux : FanoutMux} {channel : MuxChannel} :
    mux.checkChannel channel = .ok () ↔ channel.index < mux.count := by
  unfold FanoutMux.checkChannel
  split
  case isTrue h => exact iff_of_true rfl h
  case isFalse h => exact iff_of_false (by rintro ⟨⟩) h

theorem muxFor_eq_ok_iff {channel : MuxChannel} {mux : FanoutMux} :
    (design.calibrationWith settings).muxFor channel = .ok mux ↔
      design.mux = some mux ∧ channel.index < mux.count := by
  rw [← checkChannel_mux_iff]
  cases hmux : design.mux with
  | none =>
    have hnone : (design.calibrationWith settings).muxFor channel = .error noMux := by
      simp only [Calibration.muxFor, calibrationWith, hmux]
    rw [hnone]
    exact iff_of_false (by rintro ⟨⟩) (by rintro ⟨⟨⟩, -⟩)
  | some own =>
    have hsome : (design.calibrationWith settings).muxFor channel =
        (own.checkChannel channel >>= fun _ => pure own) := by
      simp only [Calibration.muxFor, calibrationWith, hmux]
    rw [hsome, Option.some.injEq]
    constructor
    · intro h
      cases hcheck : own.checkChannel channel with
      | error e => rw [hcheck] at h; cases h
      | ok u =>
        rw [hcheck] at h
        cases h
        exact ⟨rfl, hcheck⟩
    · rintro ⟨rfl, hcheck⟩
      rw [hcheck]
      rfl

/-- The check of a channel says whether the design has it. -/
theorem checkChannel_eq_ok_iff :
    (design.calibrationWith settings).checkChannel channel? = .ok () ↔
      design.HasChannel channel? := by
  cases channel? with
  | none => exact iff_of_true rfl trivial
  | some channel =>
    have hcheck : (design.calibrationWith settings).checkChannel (some channel) =
        (design.calibrationWith settings).muxFor channel >>= fun _ => .ok () := rfl
    rw [hcheck]
    constructor
    · intro h
      cases hmux : (design.calibrationWith settings).muxFor channel with
      | error e => rw [hmux] at h; cases h
      | ok mux => exact ⟨mux, muxFor_eq_ok_iff.mp hmux⟩
    · rintro ⟨mux, hmux⟩
      rw [muxFor_eq_ok_iff.mpr hmux]
      rfl

/-! ### The writes that put an endpoint on the link -/

/-- The write that selects a channel, if there is one to select. -/
def selection (design : Design) : Option MuxChannel → List (String × UInt32)
  | none => []
  | some channel => design.mux.toList.map fun mux => (mux.selectPath, channel.index)

/-- The writes that put an endpoint on the link: its isolation if transmitters are controlled, and
the selection of its channel if it has one. -/
def routing (design : Design) (address : EndpointAddress) (controlSfp : Bool)
    (channel? : Option MuxChannel) : List (String × UInt32) :=
  (if controlSfp then design.master.transmitters.isolation address else []) ++
    design.selection channel?

/-- The milliseconds for which the link settles once an endpoint was put on it. -/
def settling (settings : CalibrationSettings) (channel? : Option MuxChannel) : Nat :=
  if channel?.isSome then waitLength settings.muxSettle.toNat else 0

theorem controlPath_ne_selectPath (control : TransmitterControl) (mux : FanoutMux) :
    control.controlPath ≠ mux.selectPath := by
  have hapart : RegisterBlock.Apart "csr.ctrl.tx" "csr.ctrl.mux" := by decide
  exact RegisterBlock.path_ne_of_apart hapart control.block mux.block

theorem filter_isolation {control : TransmitterControl} {path : String} :
    ((control.isolation address).filter fun pair => pair.1 = path) =
      if control.controlPath = path then control.isolation address else [] := by
  unfold TransmitterControl.isolation
  simp only [List.filter_cons, List.filter_nil, decide_eq_true_eq]
  split <;> rfl

/-- The part of the routing that concerns the transmitters is the isolation. -/
theorem filter_routing_control :
    ((design.routing address controlSfp channel?).filter fun pair =>
      pair.1 = design.master.transmitters.controlPath) =
        if controlSfp then design.master.transmitters.isolation address else [] := by
  have hselection : ((design.selection channel?).filter fun pair =>
      pair.1 = design.master.transmitters.controlPath) = [] := by
    rw [List.filter_eq_nil_iff]
    intro pair hpair
    cases channel? with
    | none => cases hpair
    | some channel =>
      obtain ⟨mux, -, rfl⟩ := List.mem_map.mp hpair
      rw [decide_eq_true_eq]
      exact (controlPath_ne_selectPath _ mux).symm
  rw [routing, List.filter_append, hselection, List.append_nil]
  split
  · rw [filter_isolation, if_pos rfl]
  · rfl

/-- The part of the routing that concerns the multiplexer is the selection. -/
theorem filter_routing_select {mux : FanoutMux} (hmux : design.mux = some mux) :
    ((design.routing address controlSfp channel?).filter fun pair => pair.1 = mux.selectPath) =
      design.selection channel? := by
  have hisolation : ((if controlSfp then design.master.transmitters.isolation address
      else []).filter fun pair => pair.1 = mux.selectPath) = [] := by
    split
    · rw [filter_isolation, if_neg (controlPath_ne_selectPath _ mux)]
    · rfl
  rw [routing, List.filter_append, hisolation, List.nil_append, List.filter_eq_self]
  intro pair hpair
  cases channel? with
  | none => cases hpair
  | some channel =>
    rw [selection, hmux, Option.toList_some, List.map_singleton, List.mem_singleton] at hpair
    rw [hpair, decide_eq_true_eq]

theorem release_eq (h : address.IsTarget) :
    (design.calibrationWith settings).release address =
      send [(design.master.transmitters.controlPath, address.value)] :=
  design.master.release_eq h

theorem queueIsolation_eq (h : address.IsTarget) :
    (design.calibrationWith settings).queueIsolation address =
      (design.master.transmitters.isolation address).forM fun pair => write pair.1 pair.2 := by
  show (do design.master.transmitters.switch .reserved false
           design.master.transmitters.switch address true) = _
  rw [TransmitterControl.switch_on _ h]
  rfl

theorem route_direct (h : address.IsTarget) :
    (design.calibrationWith settings).route address true none =
      send (design.routing address true none) := by
  show ((design.calibrationWith settings).queueIsolation address >>= fun _ => dispatch) = _
  rw [queueIsolation_eq h]
  rfl

theorem route_channel (h : address.IsTarget) (hchannel : design.HasChannel channel?)
    (hsome : channel?.isSome) :
    (design.calibrationWith settings).route address controlSfp channel? = (do
      send (design.routing address controlSfp channel?)
      wait settings.muxSettle.toNat) := by
  obtain ⟨channel, rfl⟩ := Option.isSome_iff_exists.mp hsome
  obtain ⟨mux, hmux, hindex⟩ := hchannel
  have hfor : (design.calibrationWith settings).muxFor channel = .ok mux :=
    muxFor_eq_ok_iff.mpr ⟨hmux, hindex⟩
  show (design.calibrationWith settings).routeThroughMux address controlSfp channel = _
  unfold Calibration.routeThroughMux
  rw [hfor, queueIsolation_eq h, routing, selection, hmux]
  have hselect := FanoutMux.select_eq (checkChannel_mux_iff.mpr hindex)
  cases controlSfp with
  | false =>
    show (mux.select channel >>= fun _ => wait settings.muxSettle.toNat) = _
    rw [hselect]
    rfl
  | true =>
    show ((design.master.transmitters.isolation address).forM
      (fun pair => write pair.1 pair.2) >>= fun _ =>
        mux.select channel >>= fun _ => wait settings.muxSettle.toNat) = _
    rw [hselect]
    rfl

theorem route_refused {e : Error}
    (h : (design.calibrationWith settings).checkChannel channel? = .error e) :
    (design.calibrationWith settings).route address controlSfp channel? = fail e := by
  cases channel? with
  | none => cases h
  | some channel =>
    have hfor : (design.calibrationWith settings).muxFor channel = .error e := by
      have hcheck : ((design.calibrationWith settings).muxFor channel >>= fun _ => .ok ()) =
          .error e := h
      cases hmux : (design.calibrationWith settings).muxFor channel with
      | error e' => rw [hmux] at hcheck; cases hcheck; rfl
      | ok mux => rw [hmux] at hcheck; cases hcheck
    show (design.calibrationWith settings).routeThroughMux address controlSfp channel = _
    unfold Calibration.routeThroughMux
    rw [hfor]
    rfl

end Design

/-! ### How putting an endpoint on the link can end -/

/-- The ways in which putting an endpoint on the link can end: the result, the bench afterwards and
what was committed. -/
inductive Routed (design : Design) (settings : CalibrationSettings) (address : EndpointAddress)
    (controlSfp : Bool) (channel? : Option MuxChannel) (bench : Bench) :
    Except Error Unit → Bench → List Access → Prop
  /-- The design does not have the channel. -/
  | noChannel (e : Error)
      (refused : (design.calibrationWith settings).checkChannel channel? = .error e) :
      Routed design settings address controlSfp channel? bench (.error e) bench []
  /-- There is nothing to do. -/
  | direct (noControl : controlSfp = false) (noChannel : channel? = none) :
      Routed design settings address controlSfp channel? bench (.ok ()) bench []
  /-- The dispatch fails. -/
  | refused (message : String) (after : Bench)
      (fault : bench.bus.fault = some { remaining := 0, message })
      (refused : bench.Refused after) :
      Routed design settings address controlSfp channel? bench (.error (.bus message)) after []
  /-- The link is left before it has settled. -/
  | cancelled (middle after : Bench) (dispatched : bench.Dispatched middle)
      (bus : after.bus = middle.bus) :
      Routed design settings address controlSfp channel? bench (.error .cancelled) after
        (bench.bus.flushed bench.clock ++ (design.routing address controlSfp channel?).map
          (.written (bench.bus.dispatches + 1) bench.clock))
  /-- The endpoint is on the link, and the link has settled. -/
  | settled (middle : Bench) (dispatched : bench.Dispatched middle) :
      Routed design settings address controlSfp channel? bench (.ok ())
        { middle with clock := middle.clock + Design.settling settings channel? }
        (bench.bus.flushed bench.clock ++ (design.routing address controlSfp channel?).map
          (.written (bench.bus.dispatches + 1) bench.clock))

namespace Design

variable {design : Design} {settings : CalibrationSettings} {address : EndpointAddress}
  {controlSfp : Bool} {channel? : Option MuxChannel} {bench : Bench}

/-- Putting an endpoint on the link ends in one of these ways, on any bench. -/
theorem exists_routed (h : address.IsTarget) (design : Design) (settings : CalibrationSettings)
    (controlSfp : Bool) (channel? : Option MuxChannel) (bench : Bench) :
    ∃ result after accesses,
      ((design.calibrationWith settings).route address controlSfp channel?).run bench =
        (result, after) ∧
      ((design.calibrationWith settings).route address controlSfp channel?).commits bench =
        accesses ∧
      Routed design settings address controlSfp channel? bench result after accesses := by
  cases hcheck : (design.calibrationWith settings).checkChannel channel? with
  | error e =>
    rw [route_refused hcheck]
    exact ⟨_, _, _, run_fail e bench, commits_fail e bench, .noChannel e hcheck⟩
  | ok u =>
    have hsend := exchange_send (design.routing address controlSfp channel?) bench
    cases channel? with
    | none =>
      cases controlSfp with
      | false =>
        have hnothing : (design.calibrationWith settings).route address false none = done () := rfl
        rw [hnothing]
        exact ⟨_, _, _, run_done () bench, commits_done () bench, .direct rfl rfl⟩
      | true =>
        rw [route_direct h]
        cases hsend with
        | refused message after fault run refused commits =>
          exact ⟨_, _, _, run, commits, .refused message after fault refused⟩
        | committed result accesses after fault run dispatched commits outcome =>
          obtain ⟨rfl, rfl⟩ := outcome
          exact ⟨_, _, _, run, commits, .settled after dispatched⟩
    | some channel =>
      rw [route_channel h (checkChannel_eq_ok_iff.mp hcheck) rfl]
      cases hsend with
      | refused message after fault run refused commits =>
        rw [run_bind_of_error run, commits_bind_of_error run]
        exact ⟨_, _, _, rfl, commits, .refused message after fault refused⟩
      | committed result accesses after fault run dispatched commits outcome =>
        obtain ⟨rfl, rfl⟩ := outcome
        -- The writes have arrived, and the wait that follows commits nothing.
        rw [run_bind_of_ok run, commits_bind_of_ok run, commits, commits_wait, List.append_nil,
          run_wait]
        rcases after.wait_cases settings.muxSettle.toNat with hw | hw | ⟨deadline, hw⟩ <;> rw [hw]
        · exact ⟨_, _, _, rfl, rfl, .cancelled after after dispatched rfl⟩
        · exact ⟨_, _, _, rfl, rfl, .settled after dispatched⟩
        · exact ⟨_, _, _, rfl, rfl, .cancelled after _ dispatched rfl⟩

/-- Where nothing was queued, nothing is queued afterwards, and the routing or nothing is
committed. -/
theorem route_of_idle (h : address.IsTarget) (design : Design) (settings : CalibrationSettings)
    (controlSfp : Bool) (channel? : Option MuxChannel) (hidle : bench.bus.queue = []) :
    (((design.calibrationWith settings).route address controlSfp channel?).run
        bench).2.bus.queue = [] ∧
      (((design.calibrationWith settings).route address controlSfp channel?).commits bench = [] ∨
        ((design.calibrationWith settings).route address controlSfp channel?).commits bench =
          (design.routing address controlSfp channel?).map
            (.written (bench.bus.dispatches + 1) bench.clock)) := by
  have hflushed : bench.bus.flushed bench.clock = [] := Bus.flushed_of_queue_nil hidle
  obtain ⟨result, after, accesses, hrun, hcommits, hrouted⟩ :=
    exists_routed h design settings controlSfp channel? bench
  rw [hrun, hcommits]
  cases hrouted with
  | noChannel => exact ⟨hidle, Or.inl rfl⟩
  | direct => exact ⟨hidle, Or.inl rfl⟩
  | refused message after fault refused => exact ⟨refused.queue, Or.inl rfl⟩
  | cancelled middle after dispatched bus =>
    rw [hflushed]
    exact ⟨(congrArg Bus.queue bus).trans dispatched.queue, Or.inr rfl⟩
  | settled middle dispatched =>
    rw [hflushed]
    exact ⟨dispatched.queue, Or.inr rfl⟩

/-- Where nothing was queued, an endpoint that was put on the link is there by its routing alone. -/
theorem commits_route_of_ok {routed : Bench} (h : address.IsTarget) (hidle : bench.bus.queue = [])
    (hroute : ((design.calibrationWith settings).route address controlSfp channel?).run bench =
      (.ok (), routed)) :
    routed.bus.queue = [] ∧ bench.clock + settling settings channel? ≤ routed.clock ∧
      ((design.calibrationWith settings).route address controlSfp channel?).commits bench =
        (design.routing address controlSfp channel?).map
          (.written (bench.bus.dispatches + 1) bench.clock) := by
  have hflushed : bench.bus.flushed bench.clock = [] := Bus.flushed_of_queue_nil hidle
  obtain ⟨result, after, accesses, hrun, hcommits, hrouted⟩ :=
    exists_routed h design settings controlSfp channel? bench
  rw [hrun] at hroute
  cases hroute
  rw [hcommits]
  cases hrouted with
  | direct noControl noChannel =>
    rw [noControl, noChannel]
    exact ⟨hidle, Nat.le_refl _, rfl⟩
  | settled middle dispatched =>
    have hclock : bench.clock + settling settings channel? =
        middle.clock + settling settings channel? := by rw [dispatched.clock]
    rw [hflushed]
    exact ⟨dispatched.queue, Nat.le_of_eq hclock, rfl⟩

/-! ### Measurements -/

/-- The release that follows a failed measurement, if there is one. -/
def releaseAfter (design : Design) (settings : CalibrationSettings) (address : EndpointAddress)
    (controlSfp : Bool) (e : Error) : Procedure Unit :=
  if controlSfp && e.isLinkFailure then (design.calibrationWith settings).release address
  else done ()

/-- The end of a measurement whose result is known. -/
def conclude (design : Design) (settings : CalibrationSettings) (address : EndpointAddress)
    (controlSfp : Bool) : Except Error RoundTrip → Procedure RoundTrip
  | .ok roundTrip => done roundTrip
  | .error e =>
    (design.releaseAfter settings address controlSfp e).attempt >>= fun _ => fail e

theorem isolateAndMeasure_eq (h : address.IsTarget) :
    (design.calibrationWith settings).isolateAndMeasure address controlSfp channel? = (do
      (design.calibrationWith settings).route address controlSfp channel?
      let result ← (design.master.lockAndEcho address).attempt
      design.conclude settings address controlSfp result) := by
  have hmeasure : design.master.measure address false = design.master.lockAndEcho address := by
    rw [Master.measure, EndpointAddress.checkTarget_eq_ok_iff.mpr h]
    rfl
  unfold Calibration.isolateAndMeasure
  refine congrArg (_ >>= ·) (funext fun _ => ?_)
  show ((design.master.measure address false).attempt >>= _) = _
  rw [hmeasure]
  refine congrArg (_ >>= ·) (funext fun result => ?_)
  cases result with
  | ok roundTrip => rfl
  | error e =>
    dsimp only [conclude, releaseAfter]
    split <;> rfl

/-- A measurement that is not refused its place on the link runs to its result, which is concluded
on the bench that the echo leaves. -/
theorem run_isolateAndMeasure (h : address.IsTarget) {routed after : Bench}
    {result : Except Error RoundTrip}
    (hroute : ((design.calibrationWith settings).route address controlSfp channel?).run bench =
      (.ok (), routed))
    (hlock : (design.master.lockAndEcho address).run routed = (result, after)) :
    ((design.calibrationWith settings).isolateAndMeasure address controlSfp channel?).run bench =
      (design.conclude settings address controlSfp result).run after := by
  rw [isolateAndMeasure_eq h, run_bind_of_ok hroute, run_bind_of_ok (run_attempt_of_run hlock)]

theorem commits_isolateAndMeasure (h : address.IsTarget) {routed after : Bench}
    {result : Except Error RoundTrip}
    (hroute : ((design.calibrationWith settings).route address controlSfp channel?).run bench =
      (.ok (), routed))
    (hlock : (design.master.lockAndEcho address).run routed = (result, after)) :
    ((design.calibrationWith settings).isolateAndMeasure address controlSfp channel?).commits
        bench =
      ((design.calibrationWith settings).route address controlSfp channel?).commits bench ++
        ((design.master.lockAndEcho address).commits routed ++
          (design.conclude settings address controlSfp result).commits after) := by
  rw [isolateAndMeasure_eq h, commits_bind_of_ok hroute,
    commits_bind_of_ok (run_attempt_of_run hlock), commits_attempt]

theorem run_conclude_error (e : Error) (bench : Bench) :
    (design.conclude settings address controlSfp (.error e)).run bench =
      (.error e, ((design.releaseAfter settings address controlSfp e).run bench).2) := by
  rw [conclude, run_bind_of_ok (run_attempt _ bench), run_fail]

/-- A measurement that succeeds is a routing and an echo. -/
theorem exists_of_isolateAndMeasure_ok (h : address.IsTarget) {roundTrip : RoundTrip}
    {after : Bench}
    (hrun : ((design.calibrationWith settings).isolateAndMeasure address controlSfp channel?).run
      bench = (.ok roundTrip, after)) :
    ∃ routed,
      ((design.calibrationWith settings).route address controlSfp channel?).run bench =
        (.ok (), routed) ∧
      (design.master.lockAndEcho address).run routed = (.ok roundTrip, after) ∧
      ((design.calibrationWith settings).isolateAndMeasure address controlSfp channel?).commits
          bench =
        ((design.calibrationWith settings).route address controlSfp channel?).commits bench ++
          (design.master.lockAndEcho address).commits routed := by
  have hrun' := hrun
  rw [isolateAndMeasure_eq h] at hrun'
  obtain ⟨_, routed, hroute, -⟩ := exists_of_run_bind_ok hrun'
  cases hlock : (design.master.lockAndEcho address).run routed with
  | mk result locked =>
    rw [run_isolateAndMeasure h hroute hlock] at hrun
    have hcommits := commits_isolateAndMeasure h hroute hlock
    cases result with
    | error e =>
      rw [run_conclude_error] at hrun
      cases hrun
    | ok value =>
      cases hrun
      rw [conclude, commits_done, List.append_nil] at hcommits
      exact ⟨routed, hroute, hlock, hcommits⟩

theorem commits_conclude_error (e : Error) (bench : Bench) :
    (design.conclude settings address controlSfp (.error e)).commits bench =
      (design.releaseAfter settings address controlSfp e).commits bench := by
  rw [conclude, commits_bind_of_ok (run_attempt _ bench), commits_fail, List.append_nil,
    commits_attempt]

/-- A direct measurement by the master isolates, measures and releases like a calibration. -/
theorem master_measure_eq (h : address.IsTarget) (settings : CalibrationSettings) :
    design.master.measure address controlSfp = (do
      let roundTrip ← (design.calibrationWith settings).isolateAndMeasure address controlSfp none
      if controlSfp then
        (design.calibrationWith settings).release address
      pure roundTrip) := by
  rw [isolateAndMeasure_eq h, Master.measure, EndpointAddress.checkTarget_eq_ok_iff.mpr h]
  cases controlSfp with
  | false =>
    -- Nothing is isolated and nothing is released, so the failure of an echo passes unchanged.
    show design.master.lockAndEcho address =
      ((design.master.lockAndEcho address).attempt >>= _) >>= done
    rw [bind_done, attempt_bind_rethrow _ fun e => rfl]
    exact (bind_done _).symm
  | true =>
    -- Both isolate by the same two words; after that, only the result of the echo matters.
    rw [route_direct h, Master.isolate_eq _ h, bind_assoc]
    refine congrArg (send (design.routing address true none) >>= ·) (funext fun _ => ?_)
    rw [bind_assoc]
    refine congrArg ((design.master.lockAndEcho address).attempt >>= ·) (funext fun result => ?_)
    cases result with
    | ok roundTrip => rfl
    | error e =>
      dsimp only [conclude, releaseAfter]
      rw [bind_assoc]
      cases e.isLinkFailure <;> rfl

/-- A measurement isolates, measures and releases, whether it goes through a channel or not. -/
theorem measure_eq (h : address.IsTarget) :
    (design.calibrationWith settings).measure address controlSfp channel? = (do
      let roundTrip ←
        (design.calibrationWith settings).isolateAndMeasure address controlSfp channel?
      if controlSfp then
        (design.calibrationWith settings).release address
      pure roundTrip) := by
  have hcheck := EndpointAddress.checkTarget_eq_ok_iff.mpr h
  unfold Calibration.measure
  rw [hcheck]
  cases channel? with
  | none => exact master_measure_eq h settings
  | some channel => rfl

/-- A measurement refuses an address that names no endpoint. -/
theorem measure_refused {e : Error} (h : address.checkTarget = .error e) :
    (design.calibrationWith settings).measure address controlSfp channel? = fail e := by
  unfold Calibration.measure
  rw [h]
  rfl

theorem master_measure_refused {e : Error} (h : address.checkTarget = .error e) :
    design.master.measure address controlSfp = fail e := by
  unfold Master.measure
  rw [h]
  rfl

/-! ### What a measurement touches -/

/-- The registers that a measurement touches: those of locking and measuring, the control register
of the transmitters, and the register that selects a channel. -/
def measureFootprint (design : Design) : Footprint :=
  design.master.linkFootprint.union
    { reads := []
      writes := design.master.transmitters.controlPath ::
        design.mux.toList.map FanoutMux.selectPath }

theorem controlPath_mem_measureFootprint (design : Design) :
    design.master.transmitters.controlPath ∈ design.measureFootprint.writes :=
  List.mem_append_right _ List.mem_cons_self

/-- The registers that putting an endpoint on the link writes: the control register of the
transmitters if these are controlled, and the register that selects a channel if there is one to
select. -/
def routeFootprint (design : Design) (controlSfp : Bool) (channel? : Option MuxChannel) :
    Footprint where
  reads := []
  writes :=
    (if controlSfp then [design.master.transmitters.controlPath] else []) ++
      if channel?.isSome then design.mux.toList.map FanoutMux.selectPath else []

theorem controlPath_mem_routeFootprint (design : Design) (channel? : Option MuxChannel) :
    design.master.transmitters.controlPath ∈ (design.routeFootprint true channel?).writes :=
  List.mem_append_left _ List.mem_cons_self

theorem writes_routeFootprint_subset (design : Design) (controlSfp : Bool)
    (channel? : Option MuxChannel) :
    (design.routeFootprint controlSfp channel?).writes ⊆
      design.master.transmitters.controlPath :: design.mux.toList.map FanoutMux.selectPath := by
  intro path hpath
  rcases List.mem_append.mp hpath with hcontrol | hselect
  · split at hcontrol
    · rw [List.mem_singleton.mp hcontrol]
      exact List.mem_cons_self
    · cases hcontrol
  · split at hselect
    · exact List.mem_cons_of_mem _ hselect
    · cases hselect

theorem within_release (htarget : address.IsTarget) {footprint : Footprint}
    (hcontrol : design.master.transmitters.controlPath ∈ footprint.writes) :
    ((design.calibrationWith settings).release address).Within footprint := by
  rw [release_eq htarget]
  refine within_send fun pair hpair => ?_
  rw [List.mem_singleton.mp hpair]
  exact hcontrol

theorem within_route (htarget : address.IsTarget) :
    ((design.calibrationWith settings).route address controlSfp channel?).Within
      (design.routeFootprint controlSfp channel?) := by
  have hrouting : ∀ pair ∈ design.routing address controlSfp channel?,
      pair.1 ∈ (design.routeFootprint controlSfp channel?).writes := by
    intro pair hpair
    rcases List.mem_append.mp hpair with hisolation | hselection
    · split at hisolation
      case isTrue hcontrol =>
        rw [TransmitterControl.path_of_mem_isolation hisolation, hcontrol]
        exact design.controlPath_mem_routeFootprint channel?
      case isFalse => cases hisolation
    · cases channel? with
      | none => cases hselection
      | some channel =>
        obtain ⟨mux, hmux, rfl⟩ := List.mem_map.mp hselection
        exact List.mem_append_right _ (List.mem_map_of_mem hmux)
  cases hcheck : (design.calibrationWith settings).checkChannel channel? with
  | error e =>
    rw [route_refused hcheck]
    trivial
  | ok u =>
    cases channel? with
    | some channel =>
      rw [route_channel htarget (checkChannel_eq_ok_iff.mp hcheck) rfl]
      exact (within_send hrouting).bind fun _ => within_wait _
    | none =>
      cases controlSfp with
      | false => trivial
      | true =>
        rw [route_direct htarget]
        exact within_send hrouting

/-- However a measurement ends, it stays within the registers that its arguments ask for. -/
theorem within_isolateAndMeasure_route (htarget : address.IsTarget) :
    ((design.calibrationWith settings).isolateAndMeasure address controlSfp channel?).Within
      (design.master.linkFootprint.union (design.routeFootprint controlSfp channel?)) := by
  have hconclude : ∀ result, (design.conclude settings address controlSfp result).Within
      (design.routeFootprint controlSfp channel?) := by
    intro result
    cases result with
    | ok roundTrip => trivial
    | error e =>
      have hrelease : (design.releaseAfter settings address controlSfp e).Within
          (design.routeFootprint controlSfp channel?) := by
        unfold releaseAfter
        split
        case isTrue hlink =>
          -- Only a call that controls transmitters releases its endpoint.
          rw [(Bool.and_eq_true_iff.mp hlink).1]
          exact within_release htarget (design.controlPath_mem_routeFootprint channel?)
        case isFalse => trivial
      exact hrelease.attempt.bind fun _ => trivial
  rw [isolateAndMeasure_eq htarget]
  exact ((within_route htarget).right _).bind fun _ =>
    ((design.master.within_lockAndEcho address).left _).attempt.bind fun result =>
      (hconclude result).right _

/-- However a measurement ends, it stays within the registers of measurements. -/
theorem within_isolateAndMeasure (htarget : address.IsTarget) :
    ((design.calibrationWith settings).isolateAndMeasure address controlSfp channel?).Within
      design.measureFootprint :=
  (within_isolateAndMeasure_route htarget).mono (List.Subset.refl _)
    (List.append_subset.mpr ⟨List.subset_append_left _ _,
      List.subset_append_of_subset_right _
        (design.writes_routeFootprint_subset controlSfp channel?)⟩)

/-- The delay line has registers of its own, if it is not the block of the echo monitor. -/
theorem delay_notMem_measureFootprint
    (hblocks : design.master.echo.block ≠ design.master.delayLine.block) {leaf : String}
    (hleaf : leaf ∈ DelayLine.leaves) :
    design.master.delayLine.block.path leaf ∉ design.measureFootprint.writes := by
  have hcontrol : ∀ leaf ∈ DelayLine.leaves, RegisterBlock.Apart leaf "csr.ctrl.tx" := by decide
  have hselect : ∀ leaf ∈ DelayLine.leaves, RegisterBlock.Apart leaf "csr.ctrl.mux" := by decide
  intro hmem
  rcases List.mem_append.mp hmem with hlink | hother
  · exact Master.delay_notMem_linkFootprint hblocks hleaf hlink
  · rcases List.mem_cons.mp hother with hpath | hmux
    · exact RegisterBlock.path_ne_of_apart (hcontrol leaf hleaf) _ _ hpath
    · obtain ⟨mux, -, hpath⟩ := List.mem_map.mp hmux
      exact RegisterBlock.path_ne_of_apart (hselect leaf hleaf) _ mux.block hpath.symm

/-! ### The reference system -/

/-- The reference system with a return path and a multiplexer. -/
def reference : Design where
  config := .standard
  master := .ofConfig .standard true
  mux :=
    some
      { block := ⟨DesignConfig.standard.registers.mux⟩
        count := DesignConfig.standard.muxChannelCount }

/-- A device for the reference system that has locked and answers every echo, with the given upper
half of its receive timestamp. -/
def answering (receiveHigh : UInt32) : Bench where
  bus :=
    Bus.setRegister {} "master.upstream.csr.stat.ep_stat" UpstreamReceiver.readyState
      |>.setRegister "master.echo.csr.stat.rx_done" 1
      |>.setRegister "master.echo.csr.rx_h" receiveHigh
      |>.setRegister "master.echo.csr.rx_l" 61
  wallClock := ⟨0, 0, by decide, by decide, by decide⟩

end Design

end OpticalTiming
