import OpticalTiming.Proofs.Keeping
import OpticalTiming.Proofs.Routing

/-!
# What a measurement leaves of the transmitter

A measurement that controls transmitters switches the transmitter of its endpoint on. On a bench on
which nothing is arranged to go wrong it ends by itself in three ways: with a round trip, with a
failure of the link, or with timestamps that make no round trip. The first two are followed by
switching the transmitter off, the third is not: `finalWord` is the word that stands in the control
register in the end.
-/

namespace OpticalTiming

open Procedure

/-- The errors with which a measurement of a link ends if nothing is wrong with the bench. -/
inductive Error.IsLinkOutcome : Error → Prop
  | cancelled : IsLinkOutcome .cancelled
  | link {e : Error} (h : e.isLinkFailure) : IsLinkOutcome e
  | protocol (text : String) : IsLinkOutcome (.protocol text)

namespace TransmitterControl

/-- The word that a controlled measurement leaves in the control register: the transmitter of the
endpoint is off, unless the numbers of the echo did not fit the protocol. -/
def finalWord (address : EndpointAddress) : Except Error RoundTrip → UInt32
  | .error (.protocol _) => address.value ||| enableBit
  | _ => address.value

theorem finalWord_of_isLinkFailure (address : EndpointAddress) {e : Error}
    (h : e.isLinkFailure) : finalWord address (.error e) = address.value := by
  cases e <;> first | rfl | cases h

end TransmitterControl

namespace Design

variable {design : Design} {settings : CalibrationSettings} {address : EndpointAddress}
  {channel? : Option MuxChannel} {bench : Bench}

/-- Whether a call that ends without a fatal error has its final word as the last word that it wrote
to the control register of the transmitters. -/
def LeavesFinalWord (design : Design) (address : EndpointAddress) (p : Procedure RoundTrip)
    (bench : Bench) : Prop :=
  ∀ result after, p.run bench = (result, after) → (∀ e, result = .error e → e.isFatal = false) →
    (Access.writesTo design.master.transmitters.controlPath (p.commits bench)).getLast?.map
      Access.value = some (TransmitterControl.finalWord address result)

/-! ### The parts of a measurement -/

/-- Without a failure to come, the endpoint is isolated on the link, unless the call is cancelled
while the link settles. -/
theorem run_route_of_fault_none (settings : CalibrationSettings) (htarget : address.IsTarget)
    (hchannel : design.HasChannel channel?) (hfault : bench.bus.fault = none)
    (hunfilled : bench.bus.unfilled = []) :
    (∃ after, ((design.calibrationWith settings).route address true channel?).run bench =
      (.error .cancelled, after)) ∨
    ∃ routed, ((design.calibrationWith settings).route address true channel?).run bench =
        (.ok (), routed) ∧
      routed.Healthy ∧
      (Access.writesTo design.master.transmitters.controlPath
        (((design.calibrationWith settings).route address true channel?).commits
          bench)).getLast?.map Access.value =
            some (address.value ||| TransmitterControl.enableBit) := by
  obtain ⟨result, after, accesses, hrun, hcommits, hrouted⟩ :=
    exists_routed htarget design settings true channel? bench
  rw [hrun, hcommits]
  cases hrouted with
  | noChannel e refused =>
    rw [checkChannel_eq_ok_iff.mpr hchannel] at refused
    cases refused
  | direct noControl => cases noControl
  | refused message after fault =>
    rw [hfault] at fault
    cases fault
  | cancelled middle after dispatched bus => exact Or.inl ⟨after, rfl⟩
  | settled middle dispatched =>
    have hmiddle : middle.Healthy := .of_dispatched dispatched hfault hunfilled
    refine Or.inr ⟨_, rfl, ⟨hmiddle.queue, hmiddle.fault, hmiddle.unfilled⟩, ?_⟩
    -- Whatever was queued before the call, its own words come last.
    rw [Access.writesTo_append, Access.writesTo_written, filter_routing_control,
      List.getLast?_append]
    rfl

/-- On a healthy bench, locking and measuring leave the bench healthy and the transmitters alone. -/
theorem run_lockAndEcho_of_healthy (design : Design) (address : EndpointAddress)
    (hhealthy : bench.Healthy) :
    ∃ result after, (design.master.lockAndEcho address).run bench = (result, after) ∧
      after.Healthy ∧ (∀ e, result = .error e → e.IsLinkOutcome) ∧
      Access.writesTo design.master.transmitters.controlPath
        ((design.master.lockAndEcho address).commits bench) = [] := by
  have hkeeps := (stable_healthy Error.IsLinkOutcome.cancelled).keeps_lockAndEcho
    (fun _ => .link) .protocol design.master address bench hhealthy
  have hnone := writesTo_commits_of_within (design.master.within_lockAndEcho address)
    hhealthy.queue design.master.controlPath_notMem_linkFootprint
  exact ⟨_, _, rfl, hkeeps.1, hkeeps.2, hnone⟩

/-- On a healthy bench the release of an endpoint goes through, and its word is the last one. -/
theorem run_release (design : Design) (settings : CalibrationSettings) (h : address.IsTarget)
    (hhealthy : bench.Healthy) :
    ∃ after, ((design.calibrationWith settings).release address).run bench = (.ok (), after) ∧
      ∀ earlier, (Access.writesTo design.master.transmitters.controlPath
        (earlier ++ ((design.calibrationWith settings).release address).commits
          bench)).getLast?.map Access.value = some address.value := by
  rw [release_eq h]
  obtain ⟨after, hrun, -, hcommits⟩ := run_send_of_healthy
    [(design.master.transmitters.controlPath, address.value)] hhealthy.fault
  rw [Bus.flushed_of_queue_nil hhealthy.queue, List.nil_append] at hcommits
  refine ⟨after, hrun, fun earlier => ?_⟩
  rw [hcommits, Access.writesTo_append, List.map_singleton, Access.writesTo_written_self,
    List.getLast?_concat]
  rfl

/-! ### The final word -/

/-- Isolating, measuring and releasing leaves the final word. -/
theorem leavesFinalWord_release (htarget : address.IsTarget) (hchannel : design.HasChannel channel?)
    (hfault : bench.bus.fault = none) (hunfilled : bench.bus.unfilled = []) :
    design.LeavesFinalWord address (do
      let roundTrip ← (design.calibrationWith settings).isolateAndMeasure address true channel?
      (design.calibrationWith settings).release address
      pure roundTrip) bench := by
  intro result after hrun hfatal
  rcases run_route_of_fault_none settings htarget hchannel hfault hunfilled with
    ⟨routed, hroute⟩ | ⟨routed, hroute, hhealthy, hisolated⟩
  · -- The call has been cancelled with the wait for the multiplexer, and that is fatal.
    have herror : ((design.calibrationWith settings).isolateAndMeasure address true channel?).run
        bench = (.error .cancelled, routed) := by
      rw [isolateAndMeasure_eq htarget, run_bind_of_error hroute]
    rw [run_bind_of_error herror] at hrun
    cases hrun
    cases hfatal _ rfl
  obtain ⟨lockResult, locked, hlock, hlocked, herrors, hnone⟩ :=
    run_lockAndEcho_of_healthy design address hhealthy
  obtain ⟨released, hrelease, hlast⟩ := run_release design settings htarget hlocked
  have hmeasured := run_isolateAndMeasure htarget hroute hlock
  have hcommits := commits_isolateAndMeasure htarget hroute hlock
  cases lockResult with
  | ok roundTrip =>
    rw [run_bind_of_ok hmeasured, run_bind_of_ok hrelease] at hrun
    cases hrun
    rw [commits_bind_of_ok hmeasured, commits_bind_of_ok hrelease, pure_eq, commits_done,
      List.append_nil]
    exact hlast _
  | error e =>
    rw [run_conclude_error] at hmeasured
    rw [run_bind_of_error hmeasured] at hrun
    cases hrun
    rw [commits_bind_of_error hmeasured, hcommits, commits_conclude_error, releaseAfter,
      ← List.append_assoc]
    cases herrors e rfl with
    | cancelled => cases hfatal _ rfl
    | link hlink =>
      rw [Bool.true_and, if_pos hlink, TransmitterControl.finalWord_of_isLinkFailure address hlink]
      exact hlast _
    | protocol text =>
      -- Nothing is released, so the last word is still that of the isolation.
      have hnoRelease : ¬ (true && (Error.protocol text).isLinkFailure) = true :=
        Bool.false_ne_true
      rw [if_neg hnoRelease, commits_done, List.append_nil, Access.writesTo_append, hnone,
        List.append_nil]
      exact hisolated

/-- A measurement that controls transmitters and ends without a fatal error leaves the transmitter
of its endpoint switched off, unless its round trip did not fit the protocol. -/
theorem leavesFinalWord_measure (settings : CalibrationSettings) (htarget : address.IsTarget)
    (hchannel : design.HasChannel channel?) (hfault : bench.bus.fault = none)
    (hunfilled : bench.bus.unfilled = []) :
    design.LeavesFinalWord address
        ((design.calibrationWith settings).measure address true channel?) bench ∧
      design.LeavesFinalWord address (design.master.measure address true) bench := by
  rw [measure_eq htarget, master_measure_eq htarget settings]
  have hdirect : design.HasChannel none := trivial
  exact ⟨leavesFinalWord_release htarget hchannel hfault hunfilled,
    leavesFinalWord_release htarget hdirect hfault hunfilled⟩

/-- The law at a measurement of the reference system through a channel and at a direct one. -/
theorem leavesFinalWord_measure_reference :
    reference.LeavesFinalWord ⟨7⟩ (reference.calibration.measure ⟨7⟩ true (some ⟨2⟩))
        (answering 0) ∧
      reference.LeavesFinalWord ⟨7⟩ (reference.master.measure ⟨7⟩ true) (answering 0) :=
  leavesFinalWord_measure _ (by decide) ⟨_, rfl, by decide⟩ rfl rfl

/-- Not every call that ends without a fatal error leaves the transmitter switched off: an echo
whose timestamps are 2^32 ticks apart ends the call with the transmitter on. -/
theorem transmitter_stays_on :
    ¬ ∀ (design : Design) (settings : CalibrationSettings) (address : EndpointAddress)
      (channel? : Option MuxChannel) (bench : Bench), address.IsTarget →
      design.HasChannel channel? → bench.bus.fault = none → bench.bus.unfilled = [] →
      ∀ result after,
        ((design.calibrationWith settings).measure address true channel?).run bench =
          (result, after) →
        (∀ e, result = .error e → e.isFatal = false) →
        (Access.writesTo design.master.transmitters.controlPath
          (((design.calibrationWith settings).measure address true channel?).commits
            bench)).getLast?.map Access.value = some address.value := by
  intro h
  have hprotocol : ∀ e, (((reference.calibration.measure ⟨7⟩ true none).run
      (answering 1)).1 = .error e) → e.isFatal = false := by
    intro e he
    have hresult : (((reference.calibration.measure ⟨7⟩ true none).run (answering 1)).1 =
      .error (.protocol ("round trip of 4294967357 ticks (tx 0x0, rx 0x10000003d) " ++
        "exceeds 32 bits"))) := by rfl
    rw [hresult] at he
    cases he
    rfl
  have hword := h reference (.ofConfig reference.config) ⟨7⟩ none (answering 1) (by decide) trivial
    rfl rfl _ _ rfl hprotocol
  revert hword
  decide +kernel

end Design

end OpticalTiming
