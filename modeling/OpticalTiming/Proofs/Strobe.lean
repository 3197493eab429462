import OpticalTiming.Proofs.Harmless
import OpticalTiming.Proofs.Polling

/-!
# What stands before a strobe

An echo may only be sent when the link of the measurement is up: the receiver has locked, the
endpoint is isolated and its channel has settled. `Orderly` says so of what a call has committed,
together with the rule that a transmitter is only switched on right behind the word that switches
all of them off. A measurement is orderly on every bench with an empty queue, whatever fails or is
cancelled on the way (`conducts_isolateAndMeasure`), and stays so when something harmless follows
(`Conducts.bind`).
-/

namespace OpticalTiming

open Procedure

/-! ### The receiver -/

/-- A restart that ends with a lock has last read a status that is ready. -/
theorem UpstreamReceiver.ready_of_enable (receiver : UpstreamReceiver) {bench after : Bench}
    (hrun : receiver.enable.run bench = (.ok true, after)) :
    ∃ status, (Access.readsOf receiver.statusPath (receiver.enable.commits bench)).getLast? =
      some status ∧ isReady status.value = true := by
  rw [enable_eq] at hrun ⊢
  obtain ⟨_, off, hoff, hrest, hcommits⟩ := exists_of_run_bind_ok hrun
  obtain ⟨_, on, hon, hpoll, hcommits'⟩ := exists_of_run_bind_ok hrest
  obtain ⟨outcome, polled, hpolled, hdone, hcommits''⟩ := exists_of_run_bind_ok hpoll
  have hsatisfied : outcome.satisfied = true := Except.ok.inj (congrArg Prod.fst hdone)
  have honIdle : on.bus.queue = [] := (dispatched_of_send_ok hon).1.queue
  have hcheck : receiver.checkReady.Keeps Bench.Idle fun _ => True :=
    stable_idle.keeps_check _ _ _
  -- The check that ended the poll is the last thing that the restart did.
  obtain ⟨last, earlier, hlast, hheld, hsplit⟩ :=
    exists_check_of_satisfied (stable_idle.wait _) hcheck honIdle hpolled hsatisfied
  obtain ⟨status, hstatus, hread, hready⟩ := exists_read_of_check_true hlast hheld
  have hstatusPath : status.IsReadOf receiver.statusPath := hread
  have hlook : receiver.awaitLock.commits on = earlier ++ [status] := by
    refine hsplit.trans ?_
    exact congrArg (earlier ++ ·) hstatus
  rw [pure_eq, commits_done, List.append_nil] at hcommits''
  refine ⟨status, ?_, hready⟩
  rw [hcommits, hcommits', hcommits'', hlook, Access.readsOf_append, Access.readsOf_append,
    Access.readsOf_append, Access.readsOf_cons, if_pos hstatusPath, Access.readsOf_nil,
    ← List.append_assoc, ← List.append_assoc, List.getLast?_concat]

namespace Design

variable {design : Design} {settings : CalibrationSettings} {address : EndpointAddress}
  {bench after : Bench}

/-! ### The strobe of a measurement -/

/-- Whether the receiver, if there is one, was last seen locked. -/
def SeenLocked (design : Design) (accesses : List Access) : Prop :=
  ∀ receiver, design.master.upstream = some receiver →
    ∃ status, (Access.readsOf receiver.statusPath accesses).getLast? = some status ∧
      UpstreamReceiver.isReady status.value = true

/-- An echo measurement begins with its strobe and sends no other. -/
theorem guarded_measure (design : Design) (options : EchoOptions) (hidle : bench.bus.queue = []) :
    Access.Guarded design.IsStrobe (fun before _ => before = [])
      ((design.master.echo.measure options).commits bench) := by
  have hcollect := design.master.echo.within_collectEcho options
  rw [EchoMonitor.measure_eq, commits_bind]
  have hsend := exchange_send [(design.master.echo.strobePath, 1)] bench
  cases hsend with
  | refused message sent fault run refused commits =>
    rw [run, commits]
    exact Access.guarded_of_forall_not fun _ ha => (by cases ha)
  | committed result accesses sent fault run dispatched commits outcome =>
    obtain ⟨rfl, rfl⟩ := outcome
    rw [run, commits, Bus.flushed_of_queue_nil hidle, List.nil_append]
    -- After the strobe nothing is written any more.
    refine Access.Guarded.append ?_ fun a ha => ?_
    · exact Access.guarded_cons.mpr
        ⟨fun _ => rfl, Access.guarded_of_forall_not fun _ ha => (by cases ha)⟩
    · exact not_isWriteTo_of_within hcollect dispatched.queue (by exact List.not_mem_nil) ha

/-- Where the receiver has to lock first, no strobe is sent until it was seen locked. -/
theorem guarded_lockAndEcho (design : Design) (address : EndpointAddress)
    (hidle : bench.bus.queue = []) :
    Access.Guarded design.IsStrobe (fun before _ => design.SeenLocked before)
      ((design.master.lockAndEcho address).commits bench) := by
  cases hupstream : design.master.upstream with
  | none =>
    rw [Master.lockAndEcho_of_none hupstream]
    intro before a after _ _ receiver hreceiver
    rw [hupstream] at hreceiver
    cases hreceiver
  | some receiver =>
    rw [Master.lockAndEcho_of_some hupstream]
    have hquiet : ∀ a ∈ receiver.enable.commits bench, ¬ design.IsStrobe a := by
      intro a ha
      refine not_isWriteTo_of_within receiver.within_enable hidle ?_ ha
      exact fun hmem => strobePath_ne_enablePath _ _ (List.mem_singleton.mp hmem)
    cases henable : receiver.enable.run bench with
    | mk result enabled =>
    have hkeeps := stable_idle.keeps_enable receiver bench hidle
    rw [henable] at hkeeps
    cases result with
    | error e =>
      rw [commits_bind_of_error henable]
      exact Access.guarded_of_forall_not hquiet
    | ok locked =>
      rw [commits_bind_of_ok henable]
      cases locked with
      | false =>
        refine Access.guarded_of_forall_not fun a ha => ?_
        rcases List.mem_append.mp ha with ha | ha
        · exact hquiet a ha
        · rw [if_neg Bool.false_ne_true, throw_eq, commits_fail] at ha
          cases ha
      | true =>
        rw [if_pos rfl]
        refine Access.guarded_append.mpr ⟨Access.guarded_of_forall_not hquiet, ?_⟩
        intro before a after hsplit ha other hother
        rw [guarded_measure design _ hkeeps.1 before a after hsplit ha, List.append_nil]
        rw [hupstream] at hother
        cases hother
        exact receiver.ready_of_enable henable

/-! ### Orderly accesses -/

/-- What a call measures: the endpoint, whether its transmitter is controlled, and its channel. -/
structure Link where
  address : EndpointAddress
  controlSfp : Bool
  channel? : Option MuxChannel

/-- Whether a link is up for a strobe: the receiver was seen locked, the endpoint is isolated, and
its channel is selected and has settled. -/
structure ReadyFor (design : Design) (settings : CalibrationSettings) (link : Link)
    (before : List Access) (strobe : Access) : Prop where
  locked : design.SeenLocked before
  isolated : link.controlSfp = true → ∃ word,
    (Access.writesTo design.master.transmitters.controlPath before).getLast? = some word ∧
      word.value = link.address.value ||| TransmitterControl.enableBit
  settled : ∀ channel, link.channel? = some channel → ∃ mux selected,
    design.mux = some mux ∧ (Access.writesTo mux.selectPath before).getLast? = some selected ∧
      selected.value = channel.index ∧
      selected.time + waitLength settings.muxSettle.toNat ≤ strobe.time

/-- Whether a word switches on the transmitter of a link right behind the word that switches all
transmitters off. -/
structure SwitchesAlone (design : Design) (link : Link) (before : List Access) (word : Access) :
    Prop where
  target : link.address.IsTarget
  value : word.value = link.address.value ||| TransmitterControl.enableBit
  deselected : ∃ earlier off, before = earlier ++ [off] ∧
    off.IsWriteTo design.master.transmitters.controlPath ∧ off.value = 0 ∧
      off.dispatch = word.dispatch

/-- The rules for the strobes and the enabling words among the accesses of a call. -/
structure Orderly (design : Design) (settings : CalibrationSettings) (link? : Option Link)
    (accesses : List Access) : Prop where
  strobes : Access.Guarded design.IsStrobe
    (fun before strobe => ∃ link, link? = some link ∧
      design.ReadyFor settings link before strobe) accesses
  words : Access.Guarded design.IsEnabling
    (fun before word => ∃ link, link? = some link ∧ design.SwitchesAlone link before word) accesses

variable {α β : Type} {link? : Option Link} {controlSfp : Bool} {channel? : Option MuxChannel}

theorem orderly_of_inert {accesses : List Access} (h : ∀ a ∈ accesses, design.Inert a) :
    design.Orderly settings link? accesses where
  strobes := Access.guarded_of_forall_not fun a ha => (h a ha).1
  words := Access.guarded_of_forall_not fun a ha => (h a ha).2

/-- Inert accesses may follow. -/
theorem Orderly.append {accesses more : List Access} (h : design.Orderly settings link? accesses)
    (hmore : ∀ a ∈ more, design.Inert a) : design.Orderly settings link? (accesses ++ more) where
  strobes := h.strobes.append fun a ha => (hmore a ha).1
  words := h.words.append fun a ha => (hmore a ha).2

/-! ### Orderly procedures -/

/-- Whether a procedure takes idle benches to idle ones and commits orderly accesses there. -/
def Conducts (design : Design) (settings : CalibrationSettings) (link? : Option Link)
    (p : Procedure α) : Prop :=
  ∀ bench : Bench, bench.Idle →
    (p.run bench).2.Idle ∧ design.Orderly settings link? (p.commits bench)

theorem Harmless.conducts {p : Procedure α} (hp : design.Harmless p) :
    design.Conducts settings link? p :=
  fun bench h => ⟨(hp bench h).1, orderly_of_inert (hp bench h).2⟩

/-- A procedure that conducts may go on with a harmless one. -/
theorem Conducts.bind {p : Procedure α} {f : α → Procedure β}
    (hp : design.Conducts settings link? p) (hf : ∀ a, design.Harmless (f a)) :
    design.Conducts settings link? (p >>= f) := by
  intro bench h
  obtain ⟨hidle, horderly⟩ := hp bench h
  cases hrun : p.run bench with
  | mk result after =>
    rw [hrun] at hidle
    cases result with
    | error e =>
      rw [run_bind_of_error hrun, commits_bind_of_error hrun]
      exact ⟨hidle, horderly⟩
    | ok a =>
      rw [run_bind_of_ok hrun, commits_bind_of_ok hrun]
      obtain ⟨hidle', hinert⟩ := hf a after hidle
      exact ⟨hidle', horderly.append hinert⟩

/-! ### Orderly measurements -/

theorem not_isStrobe_routing {pair : String × UInt32} {number time : Nat}
    (hpair : pair ∈ design.routing address controlSfp channel?) :
    ¬ design.IsStrobe (.written number time pair) := by
  rintro ⟨-, hpath⟩
  have hpath : pair.1 = design.master.echo.strobePath := hpath
  rcases List.mem_append.mp hpair with hisolation | hselection
  · split at hisolation
    · rw [TransmitterControl.path_of_mem_isolation hisolation] at hpath
      exact strobePath_ne_controlPath _ hpath.symm
    · cases hisolation
  · cases channel? with
    | none => cases hselection
    | some channel =>
      obtain ⟨mux, -, rfl⟩ := List.mem_map.mp hselection
      exact strobePath_ne_selectPath _ mux hpath.symm

/-- The routing switches on no transmitter but that of its endpoint. -/
theorem guarded_routing (h : address.IsTarget) (number time : Nat) :
    Access.Guarded design.IsEnabling
      (fun before word => ∃ link, some (Link.mk address controlSfp channel?) = some link ∧
        design.SwitchesAlone link before word)
      ((design.routing address controlSfp channel?).map (.written number time)) := by
  have hselection : ∀ a ∈ (design.selection channel?).map (Access.written number time),
      ¬ design.IsEnabling a := by
    rintro a ha ⟨⟨-, hpath⟩, -⟩
    obtain ⟨pair, hpair, rfl⟩ := List.mem_map.mp ha
    cases channel? with
    | none => cases hpair
    | some channel =>
      obtain ⟨mux, -, rfl⟩ := List.mem_map.mp hpair
      exact controlPath_ne_selectPath _ mux hpath.symm
  rw [routing, List.map_append]
  refine Access.Guarded.append ?_ hselection
  cases controlSfp with
  | false => exact Access.guarded_of_forall_not fun _ ha => (by cases ha)
  | true =>
    -- The word that switches all transmitters off, the word of the endpoint, and nothing more.
    refine Access.guarded_cons.mpr ⟨?_, Access.guarded_cons.mpr ⟨?_, ?_⟩⟩
    · rintro ⟨-, hbit⟩
      have hzero : (0 : UInt32) &&& TransmitterControl.enableBit = 0 := by decide
      exact absurd hzero hbit
    · intro _
      exact ⟨_, rfl, h, rfl, [], _, rfl, ⟨rfl, rfl⟩, rfl, rfl⟩
    · exact Access.guarded_of_forall_not fun _ ha => (by cases ha)

/-- An endpoint that was put on the link has its channel. -/
theorem hasChannel_of_route_ok {routed : Bench}
    (hroute : ((design.calibrationWith settings).route address controlSfp channel?).run bench =
      (.ok (), routed)) : design.HasChannel channel? := by
  cases hcheck : (design.calibrationWith settings).checkChannel channel? with
  | ok u => exact checkChannel_eq_ok_iff.mp hcheck
  | error e =>
    rw [route_refused hcheck] at hroute
    cases hroute

/-- Once an endpoint is on the link and the receiver was seen locked, a strobe may follow. -/
theorem readyFor_of_routed (h : address.IsTarget) (hidle : bench.bus.queue = []) {routed : Bench}
    (hroute : ((design.calibrationWith settings).route address controlSfp channel?).run bench =
      (.ok (), routed))
    {before after : List Access} {strobe : Access}
    (hsplit : (design.master.lockAndEcho address).commits routed = before ++ strobe :: after)
    (hlocked : design.SeenLocked before) :
    design.ReadyFor settings ⟨address, controlSfp, channel?⟩
      (((design.calibrationWith settings).route address controlSfp channel?).commits bench ++
        before) strobe := by
  obtain ⟨hrouted, hclock, hrouting⟩ := commits_route_of_ok h hidle hroute
  have hwithin := design.master.within_lockAndEcho address
  -- Nothing after the routing writes its registers, so its words are still the last ones.
  have hquiet : ∀ path, path ∉ design.master.linkFootprint.writes →
      Access.writesTo path before = [] := by
    intro path hpath
    refine Access.writesTo_eq_nil fun a ha => not_isWriteTo_of_within hwithin hrouted hpath ?_
    rw [hsplit]
    exact List.mem_append_left _ ha
  have hstrobe : strobe ∈ (design.master.lockAndEcho address).commits routed := by
    rw [hsplit]
    exact List.mem_append_right _ List.mem_cons_self
  have htime : routed.clock ≤ strobe.time := (mem_commits hstrobe).2.1
  rw [hrouting]
  refine ⟨?_, ?_, ?_⟩
  · intro receiver hreceiver
    obtain ⟨status, hlast, hready⟩ := hlocked receiver hreceiver
    refine ⟨status, ?_, hready⟩
    rw [Access.readsOf_append, Access.readsOf_written, List.nil_append, hlast]
  · rintro rfl
    refine ⟨.written (bench.bus.dispatches + 1) bench.clock
      (design.master.transmitters.controlPath,
        address.value ||| TransmitterControl.enableBit), ?_, rfl⟩
    rw [Access.writesTo_append, hquiet _ design.master.controlPath_notMem_linkFootprint,
      List.append_nil, Access.writesTo_written, filter_routing_control]
    rfl
  · rintro channel rfl
    obtain ⟨mux, hmux, -⟩ := hasChannel_of_route_ok hroute
    refine ⟨mux, .written (bench.bus.dispatches + 1) bench.clock (mux.selectPath, channel.index),
      hmux, ?_, rfl, ?_⟩
    · rw [Access.writesTo_append, hquiet _ (design.master.selectPath_notMem_linkFootprint mux),
        List.append_nil, Access.writesTo_written, filter_routing_select hmux, selection, hmux]
      rfl
    · have hsettled : bench.clock + waitLength settings.muxSettle.toNat ≤ routed.clock := hclock
      exact Nat.le_trans hsettled htime

/-- Putting an endpoint on the link sends no echo, and the endpoint is isolated in order. -/
theorem orderly_route (h : address.IsTarget) (design : Design) (settings : CalibrationSettings)
    (controlSfp : Bool) (channel? : Option MuxChannel) (hidle : bench.bus.queue = []) :
    (∀ a ∈ ((design.calibrationWith settings).route address controlSfp channel?).commits bench,
        ¬ design.IsStrobe a) ∧
      design.Orderly settings (some ⟨address, controlSfp, channel?⟩)
        (((design.calibrationWith settings).route address controlSfp channel?).commits bench) := by
  obtain ⟨-, hnone | hrouting⟩ := route_of_idle h design settings controlSfp channel? hidle
  · rw [hnone]
    refine ⟨?_, orderly_of_inert ?_⟩
    · rintro a ⟨⟩
    · rintro a ⟨⟩
  · rw [hrouting]
    have hstrobe : ∀ a ∈ (design.routing address controlSfp channel?).map
        (.written (bench.bus.dispatches + 1) bench.clock), ¬ design.IsStrobe a := by
      intro a ha
      obtain ⟨pair, hpair, rfl⟩ := List.mem_map.mp ha
      exact not_isStrobe_routing hpair
    exact ⟨hstrobe, Access.guarded_of_forall_not hstrobe, guarded_routing h _ _⟩

/-- A measurement sends its echo over a link that is up, and isolates its endpoint in order. -/
theorem conducts_isolateAndMeasure (h : address.IsTarget) (design : Design)
    (settings : CalibrationSettings) (controlSfp : Bool) (channel? : Option MuxChannel) :
    design.Conducts settings (some ⟨address, controlSfp, channel?⟩)
      ((design.calibrationWith settings).isolateAndMeasure address controlSfp channel?) := by
  intro bench hidle
  obtain ⟨hnoStrobe, horderly⟩ := orderly_route h design settings controlSfp channel? hidle
  have hafter := (route_of_idle h design settings controlSfp channel? hidle).1
  cases hroute : ((design.calibrationWith settings).route address controlSfp
      channel?).run bench with
  | mk result routed =>
  rw [hroute] at hafter
  cases result with
  | error e =>
    rw [isolateAndMeasure_eq h, run_bind_of_error hroute, commits_bind_of_error hroute]
    exact ⟨hafter, horderly⟩
  | ok u =>
    cases hlock : (design.master.lockAndEcho address).run routed with
    | mk result locked =>
    have hlocked : locked.Idle := Master.idle_of_lockAndEcho hafter hlock
    have hend : design.Harmless (design.conclude settings address controlSfp result) :=
      harmless_conclude h result
    obtain ⟨hconcluded, hinert⟩ := hend locked hlocked
    rw [run_isolateAndMeasure h hroute hlock, commits_isolateAndMeasure h hroute hlock,
      ← List.append_assoc]
    refine ⟨hconcluded, Orderly.append ⟨?_, ?_⟩ hinert⟩
    · -- The strobe comes with the echo, when the routing lies behind it.
      refine Access.guarded_append.mpr ⟨Access.guarded_of_forall_not hnoStrobe, ?_⟩
      intro before strobe after hsplit hstrobe
      have hseen := guarded_lockAndEcho design address hafter before strobe after hsplit hstrobe
      exact ⟨_, rfl, readyFor_of_routed h hidle hroute hsplit hseen⟩
    · -- The enabling word comes with the routing, and none with the echo.
      refine Access.Guarded.append horderly.words fun a ha hword => ?_
      exact not_isWriteTo_of_within (design.master.within_lockAndEcho address) hafter
        design.master.controlPath_notMem_linkFootprint ha hword.1

end Design

end OpticalTiming
