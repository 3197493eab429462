import OpticalTiming.Proofs.Issuing

/-!
# Calls that a failing dispatch cuts off

A failure that is due at a dispatch of a call ends the call at that dispatch: nothing is committed
any more, no time passes, and the failure is the error of the call. There is one exception. When the
failure of a link is handled by switching its transmitter off (`Design.ReleasesFailed`), the failure
of the link remains the error of the call. `cutOff_perform` says so of every call, and of a failure
that is due at any of its dispatches, however deep in a poll or in a scan.

The law holds of the parts of a call because they escalate errors of the bus; only a measurement
that controls a transmitter does not, and has to be taken apart (`run_failing_measure`).
-/

namespace OpticalTiming

open Procedure

namespace Procedure

variable {α β : Type} {bench stop : Bench} {k : Nat} {message : String}

/-! ### Failures in a sequence -/

/-- A failure that is due in a procedure or in the handling of its result either ends the whole at a
dispatch of the procedure, or falls into the handling. -/
theorem run_failing_handle {p : Procedure α} {f : Except Error α → Procedure β}
    (hp : p.Escalates (.bus message)) (hf : f (.error (.bus message)) = fail (.bus message))
    (hfault : bench.bus.fault = none)
    (hstop : ((p.attempt >>= f).issues bench)[k]? = some stop) :
    (stop ∈ p.issues bench ∧
      (p.attempt >>= f).run (bench.failing k message) =
        (.error (.bus message), stop.dropQueue)) ∨
    ∃ result after j, p.run bench = (result, after) ∧
      ((f result).issues after)[j]? = some stop ∧
      (p.attempt >>= f).run (bench.failing k message) =
        (f result).run (after.failing j message) := by
  have hattempt : p.attempt.run bench = (.ok (p.run bench).1, (p.run bench).2) :=
    run_attempt p bench
  rw [issues_bind_of_ok hattempt, issues_attempt] at hstop
  by_cases hk : k < (p.issues bench).length
  · rw [List.getElem?_append_left hk] at hstop
    have hrun := run_failing_of_escalates hp hfault hstop
    refine Or.inl ⟨List.mem_of_getElem? hstop, ?_⟩
    rw [run_bind_of_ok (run_attempt_of_run hrun), hf, run_fail]
  · have hle : (p.issues bench).length ≤ k := Nat.le_of_not_lt hk
    rw [List.getElem?_append_right hle] at hstop
    have hunnoticed := run_failing_of_le p message hfault hle
    exact Or.inr ⟨_, _, _, rfl, hstop, run_bind_of_ok (run_attempt_of_run hunnoticed) f⟩

/-- A failure that is due in a sequence either ends it at a dispatch of the first part, or falls
into the second part. -/
theorem run_failing_bind {p : Procedure α} {f : α → Procedure β}
    (hp : p.Escalates (.bus message)) (hfault : bench.bus.fault = none)
    (hstop : ((p >>= f).issues bench)[k]? = some stop) :
    (stop ∈ p.issues bench ∧
      (p >>= f).run (bench.failing k message) = (.error (.bus message), stop.dropQueue)) ∨
    ∃ a after j, p.run bench = (.ok a, after) ∧ ((f a).issues after)[j]? = some stop ∧
      (p >>= f).run (bench.failing k message) = (f a).run (after.failing j message) := by
  -- A sequence handles the failure of its first part by passing it on.
  let handler : Except Error α → Procedure β := fun result => ofExcept result >>= f
  have hhandler : p.attempt >>= handler = p >>= f := attempt_bind_rethrow p fun e => rfl
  rw [← hhandler] at hstop ⊢
  rcases run_failing_handle hp rfl hfault hstop with hfirst | ⟨result, after, j, hrun, hlater, h⟩
  · exact Or.inl hfirst
  · cases result with
    | ok a => exact Or.inr ⟨a, after, j, hrun, hlater, h⟩
    | error e => cases hlater

/-- What stands in the queue when a dispatch is issued stays within the footprint of the run. -/
theorem allowsQueued_of_mem_issues {p : Procedure α} {footprint : Footprint}
    (hp : p.Within footprint)
    (hqueue : ∀ queued ∈ bench.bus.queue, footprint.AllowsQueued queued)
    (hstop : stop ∈ p.issues bench) :
    ∀ queued ∈ stop.bus.queue, footprint.AllowsQueued queued := by
  induction p generalizing bench with
  | done a => cases hstop
  | fail e => cases hstop
  | ask request next ih =>
    rw [issues] at hstop
    rcases List.mem_append.mp hstop with hnow | hlater
    · split at hnow
      · rw [List.mem_singleton.mp hnow]
        exact hqueue
      · cases hnow
    · exact ih _ (hp.2 _) (allowsQueued_answer hp.1 hqueue) hlater

end Procedure

namespace Design

variable {design : Design} {settings : CalibrationSettings} {address : EndpointAddress}
  {channel? : Option MuxChannel} {bench stop : Bench} {k : Nat} {message : String} {link : Link}

/-! ### Measurements -/

/-- When the dispatch of an isolation is issued, the two words of the isolation are queued. -/
theorem two_le_length_of_mem_issues_route (htarget : address.IsTarget)
    (hstop : stop ∈ ((design.calibrationWith settings).route address true channel?).issues bench) :
    2 ≤ stop.bus.queue.length := by
  have hrouting : 2 ≤ (design.routing address true channel?).length := by
    rw [routing, List.length_append]
    exact Nat.le_add_right 2 _
  have hsent : ∀ start : Bench,
      2 ≤ (start.enqueue
        ((design.routing address true channel?).map .ofPair)).bus.queue.length := by
    intro start
    show 2 ≤ (start.bus.queue ++ _).length
    rw [List.length_append, List.length_map]
    omega
  cases hcheck : (design.calibrationWith settings).checkChannel channel? with
  | error e =>
    rw [route_refused hcheck] at hstop
    cases hstop
  | ok u =>
    cases channel? with
    | none =>
      rw [route_direct htarget, issues_send] at hstop
      rw [List.mem_singleton.mp hstop]
      exact hsent bench
    | some channel =>
      rw [route_channel htarget (checkChannel_eq_ok_iff.mp hcheck) rfl, issues_bind,
        issues_send] at hstop
      rcases List.mem_append.mp hstop with hsend | hwait
      · rw [List.mem_singleton.mp hsend]
        exact hsent bench
      · split at hwait
        · rw [issues_wait] at hwait
          cases hwait
        · cases hwait

/-- Whether the dispatch that a run issues on `stop` switches the transmitter of its link off again,
after a failure of the link that is the result of the run. -/
def ReleasesFailed {α : Type} (design : Design) (link? : Option Link) (stop : Bench)
    (result : Except Error α) : Prop :=
  ∃ link e, link? = some link ∧ link.controlSfp = true ∧
    stop.bus.queue = [.write design.master.transmitters.controlPath link.address.value] ∧
    result = .error e ∧ e.isLinkFailure = true

/-- How a run ends if a failure is due at the dispatch that it issues on `stop`: there and at once,
and with the failure as its error, unless that is a release after a failure of its link. -/
def CutOff {α : Type} (design : Design) (link? : Option Link) (p : Procedure α)
    (bench : Bench) (k : Nat) (message : String) (stop : Bench) : Prop :=
  (¬ design.ReleasesFailed link? stop (p.run bench).1 ∧
    p.run (bench.failing k message) = (.error (.bus message), stop.dropQueue)) ∨
  (design.ReleasesFailed link? stop (p.run bench).1 ∧
    p.run (bench.failing k message) = ((p.run bench).1, stop.dropQueue))

/-- No dispatch of putting an endpoint on the link is a release. -/
theorem not_releasesFailed_of_route {α : Type} {link? : Option Link} {result : Except Error α}
    (htarget : address.IsTarget)
    (hstop : stop ∈ ((design.calibrationWith settings).route address true channel?).issues bench) :
    ¬ design.ReleasesFailed link? stop result := by
  rintro ⟨link, e, -, -, hqueue, -⟩
  have hlength := two_le_length_of_mem_issues_route htarget hstop
  rw [hqueue, List.length_singleton] at hlength
  omega

/-- No dispatch of locking and measuring is a release. -/
theorem not_releasesFailed_of_lockAndEcho {α : Type} {link? : Option Link}
    {result : Except Error α} (hidle : bench.bus.queue = [])
    (hstop : stop ∈ (design.master.lockAndEcho address).issues bench) :
    ¬ design.ReleasesFailed link? stop result := by
  rintro ⟨link, e, -, -, hqueue, -⟩
  have hallows := allowsQueued_of_mem_issues (design.master.within_lockAndEcho address)
    (by rw [hidle]; rintro queued ⟨⟩) hstop
  rw [hqueue] at hallows
  exact design.master.controlPath_notMem_linkFootprint (hallows _ List.mem_cons_self)

/-- After an isolation nothing is queued, whatever was queued before. -/
theorem idle_of_route_ok (htarget : address.IsTarget) {routed : Bench}
    (hroute : ((design.calibrationWith settings).route address true channel?).run bench =
      (.ok (), routed)) : routed.bus.queue = [] := by
  obtain ⟨result, after, accesses, hrun, -, hrouted⟩ :=
    exists_routed htarget design settings true channel? bench
  rw [hroute] at hrun
  cases hrun
  cases hrouted with
  | direct noControl => cases noControl
  | settled middle dispatched => exact dispatched.queue

/-- A failure that falls into the release after a failed link is not what is reported. -/
theorem cutOff_releaseAfter {α : Type} (settings : CalibrationSettings) (htarget : address.IsTarget)
    (hidle : bench.bus.queue = []) {e : Error} (hlink : e.isLinkFailure = true)
    (hstop : (((design.releaseAfter settings address true e).attempt >>= fun _ =>
      (fail e : Procedure α)).issues bench)[k]? = some stop) :
    design.CutOff (some ⟨address, true, channel?⟩)
      ((design.releaseAfter settings address true e).attempt >>= fun _ => (fail e : Procedure α))
      bench k message stop := by
  have hrelease : design.releaseAfter settings address true e =
      send [(design.master.transmitters.controlPath, address.value)] := by
    rw [releaseAfter, hlink, ← release_eq htarget]
    rfl
  have hissues : ((design.releaseAfter settings address true e).attempt >>= fun _ =>
      (fail e : Procedure α)).issues bench =
        [bench.enqueue [.write design.master.transmitters.controlPath address.value]] := by
    rw [issues_bind_of_ok (run_attempt _ bench), issues_attempt, hrelease, issues_send]
    rfl
  have hrun : ∀ start : Bench, ((design.releaseAfter settings address true e).attempt >>= fun _ =>
      (fail e : Procedure α)).run start =
        (.error e, ((design.releaseAfter settings address true e).run start).2) := by
    intro start
    rw [run_bind_of_ok (run_attempt _ start), run_fail]
  rw [hissues] at hstop
  obtain ⟨rfl, rfl⟩ : k = 0 ∧ bench.enqueue
      [.write design.master.transmitters.controlPath address.value] = stop := by
    cases k with
    | zero => exact ⟨rfl, Option.some.inj hstop⟩
    | succ k => cases hstop
  have hrefused : (design.releaseAfter settings address true e).run (bench.failing 0 message) =
      (.error (.bus message), (bench.enqueue
        [.write design.master.transmitters.controlPath address.value]).dropQueue) := by
    rw [hrelease, run_send]
    rfl
  refine Or.inr ⟨⟨_, e, rfl, rfl, ?_, by rw [hrun], hlink⟩, ?_⟩
  · show bench.bus.queue ++ _ = _
    rw [hidle, List.nil_append]
  · rw [hrun, hrun, hrefused]

/-- What follows the echo of a measurement that controls a transmitter. -/
theorem cutOff_conclude {α : Type} {rest : RoundTrip → Procedure α} (settings : CalibrationSettings)
    (htarget : address.IsTarget) (hrest : Follows rest) (hfault : bench.bus.fault = none)
    (hidle : bench.bus.queue = []) {result : Except Error RoundTrip}
    (hstop : ((design.conclude settings address true result >>= rest).issues bench)[k]? =
      some stop) :
    design.CutOff (some ⟨address, true, channel?⟩)
      (design.conclude settings address true result >>= rest) bench k message stop := by
  have hfatal : (Error.bus message).isFatal := rfl
  cases result with
  | ok roundTrip =>
    -- The rest of the call succeeds without the failure, so its error is no failure of the link.
    have hescalates : (rest roundTrip).Escalates (.bus message) :=
      hrest.compositional (compositional_escalates hfatal) roundTrip
    have hcut := run_failing_of_escalates hescalates hfault hstop
    obtain ⟨value, after, hvalue⟩ := hrest.ok roundTrip hfault
    have hrun : (design.conclude settings address true (.ok roundTrip) >>= rest).run bench =
        (.ok value, after) := hvalue
    refine Or.inl ⟨?_, hcut⟩
    rintro ⟨link, e, -, -, -, herror, -⟩
    rw [hrun] at herror
    cases herror
  | error e =>
    have hconclude : design.conclude settings address true (.error e) >>= rest =
        (design.releaseAfter settings address true e).attempt >>= fun _ => fail e :=
      Procedure.bind_assoc _ _ _
    rw [hconclude] at hstop ⊢
    cases hlink : e.isLinkFailure with
    | true => exact cutOff_releaseAfter settings htarget hidle hlink hstop
    | false =>
      -- Nothing is released, so nothing is dispatched any more.
      rw [releaseAfter, hlink] at hstop
      cases hstop

/-- A measurement that controls a transmitter, and what a call does afterwards. -/
theorem cutOff_measure {α : Type} {rest : RoundTrip → Procedure α}
    (htarget : link.address.IsTarget) (hcontrol : link.controlSfp = true) (hrest : Follows rest)
    (hfault : bench.bus.fault = none)
    (hstop : ((link.measure design settings >>= rest).issues bench)[k]? = some stop) :
    design.CutOff (some link) (link.measure design settings >>= rest) bench k message stop := by
  have hfatal : (Error.bus message).isFatal := rfl
  have hparts := compositional_escalates hfatal
  obtain ⟨address, controlSfp, channel?⟩ := link
  obtain rfl : controlSfp = true := hcontrol
  have hsplit : Link.measure design settings ⟨address, true, channel?⟩ >>= rest = (do
      (design.calibrationWith settings).route address true channel?
      let result ← (design.master.lockAndEcho address).attempt
      design.conclude settings address true result >>= rest) := by
    rw [Link.measure, isolateAndMeasure_eq htarget, Procedure.bind_assoc]
    simp only [Procedure.bind_assoc]
  rw [hsplit] at hstop ⊢
  unfold CutOff
  -- The failure is due while the endpoint is put on the link, while it is measured, or later.
  rcases run_failing_bind (hparts.route htarget design settings true channel?) hfault hstop with
    ⟨hmem, hrun⟩ | ⟨_, routed, i, hroute, hlater, hrun⟩
  · exact Or.inl ⟨not_releasesFailed_of_route htarget hmem, hrun⟩
  have hrouted : routed.bus.fault = none := fault_of_run hroute hfault
  have hidle : routed.bus.queue = [] := idle_of_route_ok htarget hroute
  rw [hrun, run_bind_of_ok hroute]
  rcases run_failing_handle (hparts.lockAndEcho design.master address) rfl hrouted hlater with
    ⟨hmem, hrun⟩ | ⟨result, locked, j, hlock, hlast, hrun⟩
  · exact Or.inl ⟨not_releasesFailed_of_lockAndEcho hidle hmem, hrun⟩
  rw [hrun, run_bind_of_ok (run_attempt_of_run hlock)]
  exact cutOff_conclude settings htarget hrest (fault_of_run hlock hrouted)
    (Master.idle_of_lockAndEcho hidle hlock) hlast

/-! ### Calls -/

/-- Every call is cut off by a failure at any of its dispatches. -/
theorem cutOff_perform (design : Design) (settings : CalibrationSettings) (call : Call)
    (hfault : bench.bus.fault = none)
    (hstop : ((call.perform design settings).issues bench)[k]? = some stop) :
    design.CutOff call.measured (call.perform design settings) bench k message stop := by
  have hfatal : (Error.bus message).isFatal := rfl
  have hparts := compositional_escalates hfatal
  -- Unless a transmitter is controlled, the whole call escalates, and nothing is released.
  by_cases hcontrol : ∃ link, call.measured = some link ∧ link.controlSfp = true
  · obtain ⟨link, hmeasured, hcontrol⟩ := hcontrol
    rcases call.perform_of_measured design settings hmeasured with
      ⟨-, e, -, hrefused⟩ | ⟨haccepts, rest, hrest, hperform⟩
    · rw [hrefused] at hstop
      cases hstop
    · rw [hperform] at hstop ⊢
      rw [hmeasured]
      exact cutOff_measure haccepts.target hcontrol hrest hfault hstop
  · have hescalates : (call.perform design settings).Escalates (.bus message) :=
      Call.compositional hparts design settings call fun link hmeasured _ hlink =>
        absurd ⟨link, hmeasured, hlink⟩ hcontrol
    refine Or.inl ⟨?_, run_failing_of_escalates hescalates hfault hstop⟩
    rintro ⟨link, e, hmeasured, hlink, -⟩
    exact hcontrol ⟨link, hmeasured, hlink⟩

/-- A call on a bench with a failure to come, compared with the call without it: a failure that is
due after the last dispatch changes nothing, and any other one cuts the call off at its dispatch,
with what the dispatches before it commit. -/
theorem faulted_perform (settings : CalibrationSettings) (call : Call) (k : Nat) (message : String)
    (hfault : bench.bus.fault = none) :
    let p := call.perform design settings
    let calm := p.run bench
    let faulted := p.run (bench.failing k message)
    (calm.2.bus.dispatches ≤ bench.bus.dispatches + k →
      faulted.1 = calm.1 ∧ faulted.2.bus.journal = calm.2.bus.journal ∧
        faulted.2.clock = calm.2.clock) ∧
    (bench.bus.dispatches + k < calm.2.bus.dispatches →
      ∃ stop, (p.issues bench)[k]? = some stop ∧ bench.Issued (p.commits bench) k stop ∧
        design.CutOff call.measured p bench k message stop ∧
        p.commits (bench.failing k message) =
          (p.commits bench).filter fun a => a.dispatch ≤ bench.bus.dispatches + k) := by
  intro p calm faulted
  have hcount : calm.2.bus.dispatches = bench.bus.dispatches + (p.issues bench).length :=
    dispatches_run p hfault
  refine ⟨fun hlate => ?_, fun hdue => ?_⟩
  · have hrun : faulted = (calm.1, calm.2.failing (k - (p.issues bench).length) message) :=
      run_failing_of_le p message hfault (by omega)
    rw [hrun]
    exact ⟨rfl, rfl, rfl⟩
  · have hk : k < (p.issues bench).length := by omega
    have hstop : (p.issues bench)[k]? = some (p.issues bench)[k] := List.getElem?_eq_getElem hk
    have hcut : design.CutOff call.measured p bench k message (p.issues bench)[k] :=
      cutOff_perform design settings call hfault hstop
    have hrun : ∃ result, faulted = (result, ((p.issues bench)[k]).dropQueue) := by
      rcases hcut with ⟨-, h⟩ | ⟨-, h⟩ <;> exact ⟨_, h⟩
    obtain ⟨result, hrun⟩ := hrun
    exact ⟨_, hstop, p.issued_of_getElem? hfault hstop, hcut, commits_failing hfault hstop hrun⟩

/-- A measurement of the reference system whose fourth dispatch fails. -/
theorem faulted_reference :
    let p := reference.calibration.measure ⟨7⟩ true (some ⟨2⟩)
    ∃ stop, (p.issues (answering 0))[3]? = some stop ∧
      (answering 0).Issued (p.commits (answering 0)) 3 stop ∧
      reference.CutOff (some ⟨⟨7⟩, true, some ⟨2⟩⟩) p (answering 0) 3 "link down" stop ∧
      p.commits ((answering 0).failing 3 "link down") =
        (p.commits (answering 0)).filter fun a =>
          a.dispatch ≤ (answering 0).bus.dispatches + 3 := by
  have hlate : (answering 0).bus.dispatches + 3 <
      ((reference.calibration.measure ⟨7⟩ true (some ⟨2⟩)).run (answering 0)).2.bus.dispatches := by
    decide +kernel
  exact (faulted_perform (.ofConfig reference.config) (.measure ⟨7⟩ true (some ⟨2⟩)) 3 "link down"
    rfl).2 hlate

/-- A device of the reference system that never locks. -/
def silent : Bench where
  wallClock := (answering 0).wallClock

/-- The ninth dispatch is the release after the lock has failed, and its failure is not reported. -/
example : ((reference.calibration.measure ⟨7⟩ true (some ⟨2⟩)).run
    (silent.failing 8 "link down")).1 = .error (.lockFailure "upstream endpoint for 0x7") := by
  rfl

end Design

end OpticalTiming
