import OpticalTiming.Proofs.Refusing

/-!
# What a call may touch

Every call of a design stays within a few registers, whatever the device does and however the call
ends. `Call.footprint` lists them, and `within_perform` says that the call asks for no others.

The registers that are written and those that are read have different leaves, and no leaf is the
ending of another one, so they stay different whatever names the blocks have. `Footprint.Spares`
says that no register with a leaf is written, in any block; `spares_footprint` finds out which calls
spare a leaf. `confined` draws the conclusions for the journal.
-/

namespace OpticalTiming

open Procedure

/-! ### Leaves that are not written -/

/-- Whether no register with a leaf is written, whatever block it is in. -/
def Footprint.Spares (footprint : Footprint) (leaf : String) : Prop :=
  ∀ block : RegisterBlock, block.path leaf ∉ footprint.writes

namespace Footprint

variable {footprint other : Footprint} {leaf : String}

/-- The footprint that touches nothing. -/
def empty : Footprint where
  reads := []
  writes := []

/-- A footprint that only writes. -/
def writing (paths : List String) : Footprint where
  reads := []
  writes := paths

theorem spares_empty (leaf : String) : empty.Spares leaf := fun _ => List.not_mem_nil

theorem spares_union :
    (footprint.union other).Spares leaf ↔ footprint.Spares leaf ∧ other.Spares leaf := by
  simp only [Spares, union, List.mem_append, not_or, forall_and]

/-- Registers whose leaves are apart from a leaf are written without touching it. -/
theorem spares_of_apart {paths : List String}
    (h : ∀ path ∈ paths, ∃ block : RegisterBlock, ∃ written,
      path = block.path written ∧ RegisterBlock.Apart leaf written) :
    (writing paths).Spares leaf := by
  intro block hmem
  obtain ⟨own, written, heq, hapart⟩ := h _ hmem
  exact RegisterBlock.path_ne_of_apart hapart block own heq

theorem spares_writing_append {first second : List String} :
    (writing (first ++ second)).Spares leaf ↔
      (writing first).Spares leaf ∧ (writing second).Spares leaf := by
  simp only [Spares, writing, List.mem_append, not_or, forall_and]

end Footprint

namespace Design

variable {design : Design} {settings : CalibrationSettings} {address : EndpointAddress}
  {delay : DelayParameters} {measureRtt controlSfp : Bool} {channel? : Option MuxChannel}
  {bench : Bench} {leaf : String}

/-! ### The registers of each call -/

/-- The registers that a wait for the lock of the upstream receiver touches: its enable register is
written and its status is read. -/
def lockFootprint (design : Design) : Footprint :=
  match design.master.upstream with
  | none => .empty
  | some receiver => receiver.footprint

/-- The registers that a scan touches: those of the lock, and the register that selects a channel is
written. -/
def scanFootprint (design : Design) : Footprint :=
  design.lockFootprint.union (.writing (design.mux.toList.map FanoutMux.selectPath))

/-- The registers of the delay line. -/
def delayPaths (design : Design) : List String :=
  DelayLine.leaves.map design.master.delayLine.block.path

/-- The register that a release writes, if there is one. -/
def releasePaths (design : Design) (release : Bool) : List String :=
  if release then [design.master.transmitters.controlPath] else []

/-- The registers that an application touches: those of its measurement if it measures, those of the
delay line, and the control register of the transmitters if it releases its endpoint. -/
def applyFootprint (design : Design) (settings : CalibrationSettings)
    (measureRtt controlSfp : Bool) (channel? : Option MuxChannel) : Footprint :=
  (if measureRtt then
      design.master.linkFootprint.union (design.routeFootprint controlSfp channel?)
    else
      .empty).union
    (.writing (design.delayPaths ++
      design.releasePaths (releases settings measureRtt controlSfp channel?)))

/-- The registers that configuring touches: both halves of the counter are loaded, the delay line is
written, and the control register of the transmitters if every application releases its endpoint. -/
def configureFootprint (design : Design) : Footprint :=
  .writing ([design.master.counter.block.path "ctr.set_h",
      design.master.counter.block.path "ctr.set_l"] ++ design.delayPaths ++
    design.releasePaths (design.config.releasePolicy = .always))

/-- The registers that a call touches. -/
def Call.footprint (design : Design) (settings : CalibrationSettings) : Call → Footprint
  | measure _ controlSfp channel? =>
    design.master.linkFootprint.union (design.routeFootprint controlSfp channel?)
  | measureDirect _ controlSfp =>
    design.master.linkFootprint.union (design.routeFootprint controlSfp none)
  | apply _ _ measureRtt controlSfp channel? =>
    design.applyFootprint settings measureRtt controlSfp channel?
  | applyStored endpoint measureRtt =>
    design.applyFootprint settings measureRtt true endpoint.muxChannel
  | scan _ => design.scanFootprint
  | switchMux _ _ => design.scanFootprint
  | configure => design.configureFootprint

/-! ### Scans -/

theorem within_enableUpstream (design : Design) :
    design.master.enableUpstream.Within design.lockFootprint := by
  unfold Master.enableUpstream lockFootprint
  cases design.master.upstream with
  | none => trivial
  | some receiver => exact receiver.within_enable

theorem within_switchTo {mux : FanoutMux} (hmux : design.mux = some mux) (channel : MuxChannel)
    (waitForLock : Bool) :
    ((MuxScanner.ofMaster design.master mux).switchTo channel waitForLock).Within
      design.scanFootprint := by
  have hselect : (mux.select channel).Within design.scanFootprint := by
    have hselected : mux.selectPath ∈ design.scanFootprint.writes :=
      List.mem_append_right _ (by simp [Footprint.writing, hmux])
    have hsend : (send [(mux.selectPath, channel.index)]).Within design.scanFootprint := by
      refine within_send fun pair hpair => ?_
      rwa [List.mem_singleton.mp hpair]
    exact (within_ofExcept _).bind fun _ => hsend
  refine hselect.bind fun _ => ?_
  cases waitForLock with
  | false => trivial
  | true =>
    refine (design.within_enableUpstream.left _).bind fun locked => ?_
    cases locked <;> trivial

theorem within_scanFrom {mux : FanoutMux} (hmux : design.mux = some mux) (first : UInt32)
    (count : Nat) :
    ((MuxScanner.ofMaster design.master mux).scanFrom first count).Within
      design.scanFootprint := by
  induction count generalizing first with
  | zero => trivial
  | succ count ih =>
    refine (within_switchTo hmux ⟨first⟩ true).attempt.bind fun result => ?_
    cases result with
    | ok u => exact (ih (first + 1)).bind fun _ => trivial
    | error e =>
      dsimp only
      split
      · exact (ih (first + 1)).bind fun _ => trivial
      · trivial

/-- What is done with the scanner of a design. -/
theorem within_scanner {α : Type} {f : MuxScanner → Procedure α} {footprint : Footprint}
    (hf : ∀ mux, design.mux = some mux → (f (.ofMaster design.master mux)).Within footprint) :
    (Procedure.ofExcept design.scanner >>= f).Within footprint := by
  unfold scanner
  cases hmux : design.mux with
  | none => trivial
  | some mux => exact hf mux hmux

/-! ### Measurements and applications -/

theorem within_measured (htarget : address.IsTarget) :
    Within (design.master.linkFootprint.union (design.routeFootprint controlSfp channel?)) (do
      let roundTrip ←
        (design.calibrationWith settings).isolateAndMeasure address controlSfp channel?
      if controlSfp then
        (design.calibrationWith settings).release address
      pure roundTrip) := by
  refine (within_isolateAndMeasure_route htarget).bind fun roundTrip => ?_
  cases controlSfp with
  | false => trivial
  | true =>
    have hcontrol := design.controlPath_mem_routeFootprint channel?
    exact (within_release htarget (List.mem_append_right _ hcontrol)).bind fun _ => trivial

theorem within_measure (design : Design) (settings : CalibrationSettings)
    (address : EndpointAddress) (controlSfp : Bool) (channel? : Option MuxChannel) :
    ((design.calibrationWith settings).measure address controlSfp channel?).Within
      (design.master.linkFootprint.union (design.routeFootprint controlSfp channel?)) := by
  cases hcheck : address.checkTarget with
  | error e =>
    rw [measure_refused hcheck]
    trivial
  | ok u =>
    have htarget := EndpointAddress.checkTarget_eq_ok_iff.mp hcheck
    rw [measure_eq htarget]
    exact within_measured htarget

theorem within_measureDirect (design : Design) (settings : CalibrationSettings)
    (address : EndpointAddress) (controlSfp : Bool) :
    (design.master.measure address controlSfp).Within
      (design.master.linkFootprint.union (design.routeFootprint controlSfp none)) := by
  cases hcheck : address.checkTarget with
  | error e =>
    rw [master_measure_refused hcheck]
    trivial
  | ok u =>
    have htarget := EndpointAddress.checkTarget_eq_ok_iff.mp hcheck
    rw [master_measure_eq htarget settings]
    exact within_measured htarget

theorem mem_delayPaths_of_mem_pairs {pair : String × UInt32}
    (h : pair ∈ design.master.delayLine.pairs address delay) : pair.1 ∈ design.delayPaths := by
  obtain ⟨leaf, hleaf, hpath⟩ := DelayLine.exists_leaf_of_mem_pairs h
  rw [hpath]
  exact List.mem_map_of_mem hleaf

/-- The end of an application writes the control register only if it releases its endpoint. -/
theorem within_finish_release (htarget : address.IsTarget) (release : Bool)
    (roundTrip? : Option RoundTrip) :
    (design.finish settings address release roundTrip?).Within
      (.writing (design.releasePaths release)) := by
  cases release with
  | false => trivial
  | true => exact (within_release htarget List.mem_cons_self).bind fun _ => trivial

theorem within_apply (design : Design) (settings : CalibrationSettings)
    (address : EndpointAddress) (delay : DelayParameters) (measureRtt controlSfp : Bool)
    (channel? : Option MuxChannel) :
    ((design.calibrationWith settings).apply address delay measureRtt controlSfp channel?).Within
      (design.applyFootprint settings measureRtt controlSfp channel?) := by
  rcases design.apply_cases settings address delay measureRtt controlSfp channel? with
    ⟨e, hrefused⟩ | ⟨htarget, -, happly⟩
  · rw [hrefused]
    trivial
  · rw [happly]
    have hmeasure : ((design.calibrationWith settings).measureIf measureRtt address controlSfp
        channel?).Within (design.applyFootprint settings measureRtt controlSfp channel?) := by
      cases measureRtt with
      | false => trivial
      | true => exact ((within_isolateAndMeasure_route htarget).left _).bind fun _ => trivial
    have hprogram : (send (design.master.delayLine.pairs address delay)).Within
        (design.applyFootprint settings measureRtt controlSfp channel?) := by
      refine within_send fun pair hpair => List.mem_append_right _ ?_
      exact List.mem_append_left _ (mem_delayPaths_of_mem_pairs hpair)
    have hfinish : ∀ roundTrip?, (design.finish settings address
        (releases settings measureRtt controlSfp channel?) roundTrip?).Within
          (design.applyFootprint settings measureRtt controlSfp channel?) := by
      intro roundTrip?
      refine (within_finish_release htarget _ roundTrip?).mono (List.nil_subset _) ?_
      exact List.subset_append_of_subset_right _ (List.subset_append_right _ _)
    exact hmeasure.bind fun _ => hprogram.bind fun _ => hfinish _

/-! ### Configuring -/

/-- Without a measurement, an endpoint is released under one policy only. -/
theorem releases_unmeasured (settings : CalibrationSettings) (channel? : Option MuxChannel) :
    releases settings false true channel? = decide (settings.releasePolicy = .always) := by
  rw [releases_eq, Bool.false_and, Bool.or_false, Bool.true_and]

theorem within_applyAll (design : Design) (endpoints : List StoredCalibration) :
    (applyAll design.calibration endpoints).Within design.configureFootprint := by
  induction endpoints with
  | nil => trivial
  | cons endpoint rest ih =>
    have happly := design.within_apply (.ofConfig design.config) endpoint.address endpoint.delay
      false true endpoint.muxChannel
    rw [applyFootprint, releases_unmeasured] at happly
    refine (happly.mono (List.nil_subset _) ?_).bind fun _ => ih
    rw [configureFootprint, List.append_assoc]
    exact List.subset_append_right _ _

theorem within_configure (design : Design) :
    design.configure.Within design.configureFootprint := by
  rw [configure_eq]
  refine within_wallClock.bind fun time => (within_ofExcept _).bind fun word => ?_
  refine (within_send fun pair hpair => ?_).bind fun _ =>
    (design.within_applyAll _).bind fun _ => trivial
  refine List.mem_append_left _ (List.mem_append_left _ ?_)
  rcases List.mem_cons.mp hpair with rfl | hpair
  · exact List.mem_cons_self
  · rw [List.mem_singleton.mp hpair]
    exact List.mem_cons_of_mem _ List.mem_cons_self

/-- Every call stays within its registers. -/
theorem within_perform (design : Design) (settings : CalibrationSettings) (call : Call) :
    (call.perform design settings).Within (call.footprint design settings) := by
  cases call with
  | measure address controlSfp channel? => exact design.within_measure settings _ _ _
  | measureDirect address controlSfp => exact design.within_measureDirect settings _ _
  | apply address delay measureRtt controlSfp channel? =>
    exact design.within_apply settings _ _ _ _ _
  | applyStored endpoint measureRtt => exact design.within_apply settings _ _ _ _ _
  | scan count =>
    refine within_scanner fun mux hmux => ?_
    unfold MuxScanner.scan
    split
    · trivial
    · exact within_scanFrom hmux 0 count.toNat
  | switchMux channel waitForLock =>
    exact within_scanner fun mux hmux => within_switchTo hmux channel waitForLock
  | configure => exact design.within_configure

/-! ### Leaves that a call spares -/

/-- Whether a call may write the control register of the transmitters. -/
def Call.controlsSfp (design : Design) : Call → Bool
  | measure _ controlSfp _ | measureDirect _ controlSfp | apply _ _ _ controlSfp _ => controlSfp
  | applyStored _ _ => true
  | scan _ | switchMux _ _ => false
  | configure => design.config.releasePolicy = .always

/-- Whether a call may select a channel. -/
def Call.selects : Call → Bool
  | measure _ _ channel? => channel?.isSome
  | measureDirect _ _ | configure => false
  | apply _ _ measureRtt _ channel? => measureRtt && channel?.isSome
  | applyStored endpoint measureRtt => measureRtt && endpoint.muxChannel.isSome
  | scan _ | switchMux _ _ => true

/-- The leaves that any call may write, other than those of the transmitters and of the
multiplexer. -/
def writtenLeaves : List String :=
  ["csr.ctrl.ep_en", "ctr.set_h", "ctr.set_l"] ++ DelayLine.leaves

theorem spares_lock (h : RegisterBlock.Apart leaf "csr.ctrl.ep_en") (design : Design) :
    design.lockFootprint.Spares leaf := by
  unfold lockFootprint
  cases design.master.upstream with
  | none => exact Footprint.spares_empty leaf
  | some receiver =>
    intro block hmem
    exact RegisterBlock.path_ne_of_apart h block receiver.block (List.mem_singleton.mp hmem)

theorem spares_link (hlock : RegisterBlock.Apart leaf "csr.ctrl.ep_en")
    (hstrobe : RegisterBlock.Apart leaf "csr.ctrl.go") (design : Design) :
    design.master.linkFootprint.Spares leaf := by
  intro block
  exact Master.path_notMem_linkFootprint (RegisterBlock.path_ne_of_apart hstrobe block _) hlock

theorem spares_select (h : RegisterBlock.Apart leaf "csr.ctrl.mux") (design : Design) :
    (Footprint.writing (design.mux.toList.map FanoutMux.selectPath)).Spares leaf := by
  refine Footprint.spares_of_apart fun path hpath => ?_
  obtain ⟨mux, -, rfl⟩ := List.mem_map.mp hpath
  exact ⟨mux.block, _, rfl, h⟩

theorem spares_release (design : Design) {release : Bool}
    (h : release = true → RegisterBlock.Apart leaf "csr.ctrl.tx") :
    (Footprint.writing (design.releasePaths release)).Spares leaf := by
  refine Footprint.spares_of_apart fun path hpath => ?_
  unfold releasePaths at hpath
  split at hpath
  case isTrue hrelease => exact ⟨_, _, List.mem_singleton.mp hpath, h hrelease⟩
  case isFalse => cases hpath

theorem spares_delay (h : ∀ written ∈ DelayLine.leaves, RegisterBlock.Apart leaf written)
    (design : Design) : (Footprint.writing design.delayPaths).Spares leaf := by
  refine Footprint.spares_of_apart fun path hpath => ?_
  obtain ⟨written, hwritten, rfl⟩ := List.mem_map.mp hpath
  exact ⟨_, written, rfl, h written hwritten⟩

theorem spares_route (design : Design) (hcontrol : controlSfp = true →
    RegisterBlock.Apart leaf "csr.ctrl.tx")
    (hselect : channel?.isSome = true → RegisterBlock.Apart leaf "csr.ctrl.mux") :
    (design.routeFootprint controlSfp channel?).Spares leaf := by
  refine Footprint.spares_writing_append.mpr ⟨design.spares_release hcontrol, ?_⟩
  split
  case isTrue hsome => exact spares_select (hselect hsome) design
  case isFalse => exact Footprint.spares_empty leaf

theorem spares_apply (design : Design) (settings : CalibrationSettings)
    (hwritten : ∀ written ∈ writtenLeaves, RegisterBlock.Apart leaf written)
    (hcontrol : controlSfp = true → RegisterBlock.Apart leaf "csr.ctrl.tx")
    (hselect : (measureRtt && channel?.isSome) = true →
      RegisterBlock.Apart leaf "csr.ctrl.mux") :
    (design.applyFootprint settings measureRtt controlSfp channel?).Spares leaf := by
  have hdelay : ∀ written ∈ DelayLine.leaves, RegisterBlock.Apart leaf written :=
    fun written hmem => hwritten written (List.mem_append_right _ hmem)
  have hrelease : releases settings measureRtt controlSfp channel? = true →
      RegisterBlock.Apart leaf "csr.ctrl.tx" :=
    fun h => hcontrol (Bool.and_eq_true_iff.mp h).1
  refine Footprint.spares_union.mpr ⟨?_, Footprint.spares_writing_append.mpr
    ⟨spares_delay hdelay design, design.spares_release hrelease⟩⟩
  cases measureRtt with
  | false => exact Footprint.spares_empty leaf
  | true =>
    exact Footprint.spares_union.mpr
      ⟨spares_link (hwritten _ (by decide)) (hwritten _ (by decide)) design,
        design.spares_route hcontrol hselect⟩

theorem spares_scan (design : Design) (hlock : RegisterBlock.Apart leaf "csr.ctrl.ep_en")
    (hselect : RegisterBlock.Apart leaf "csr.ctrl.mux") : design.scanFootprint.Spares leaf :=
  Footprint.spares_union.mpr ⟨spares_lock hlock design, spares_select hselect design⟩

theorem spares_configure (design : Design)
    (hwritten : ∀ written ∈ writtenLeaves, RegisterBlock.Apart leaf written)
    (hcontrol : decide (design.config.releasePolicy = .always) = true →
      RegisterBlock.Apart leaf "csr.ctrl.tx") : design.configureFootprint.Spares leaf := by
  have hdelay : ∀ written ∈ DelayLine.leaves, RegisterBlock.Apart leaf written :=
    fun written hmem => hwritten written (List.mem_append_right _ hmem)
  refine Footprint.spares_writing_append.mpr ⟨Footprint.spares_writing_append.mpr
    ⟨Footprint.spares_of_apart fun path hpath => ?_, spares_delay hdelay design⟩,
    design.spares_release hcontrol⟩
  rcases List.mem_cons.mp hpath with rfl | hpath
  · exact ⟨_, _, rfl, hwritten _ (by decide)⟩
  · exact ⟨_, _, List.mem_singleton.mp hpath, hwritten _ (by decide)⟩

/-- A call writes no register whose leaf is apart from all that it may write. -/
theorem spares_footprint (design : Design) (settings : CalibrationSettings) (call : Call)
    (hwritten : ∀ written ∈ writtenLeaves, RegisterBlock.Apart leaf written)
    (hcontrol : call.controlsSfp design = true → RegisterBlock.Apart leaf "csr.ctrl.tx")
    (hselect : call.selects = true → RegisterBlock.Apart leaf "csr.ctrl.mux") :
    (call.footprint design settings).Spares leaf := by
  have hlock : RegisterBlock.Apart leaf "csr.ctrl.ep_en" := hwritten _ (by decide)
  have hstrobe : RegisterBlock.Apart leaf "csr.ctrl.go" := hwritten _ (by decide)
  cases call with
  | measure address controlSfp channel? =>
    exact Footprint.spares_union.mpr
      ⟨spares_link hlock hstrobe design, design.spares_route hcontrol hselect⟩
  | measureDirect address controlSfp =>
    exact Footprint.spares_union.mpr
      ⟨spares_link hlock hstrobe design, design.spares_route hcontrol hselect⟩
  | apply address delay measureRtt controlSfp channel? =>
    exact design.spares_apply settings hwritten hcontrol hselect
  | applyStored endpoint measureRtt =>
    exact design.spares_apply settings hwritten hcontrol hselect
  | scan count => exact design.spares_scan hlock (hselect rfl)
  | switchMux channel waitForLock => exact design.spares_scan hlock (hselect rfl)
  | configure => exact design.spares_configure hwritten hcontrol

/-! ### Leaves that are read -/

/-- The leaves that any call may read. -/
def readLeaves : List String :=
  "csr.stat.ep_stat" :: "csr.stat.rx_done" :: EchoMonitor.stampLeaves

/-- Whether a footprint reads no registers but those with leaves that any call may read. -/
def ReadsLeaves (footprint : Footprint) : Prop :=
  ∀ path ∈ footprint.reads, ∃ block : RegisterBlock, ∃ leaf ∈ readLeaves, path = block.path leaf

theorem readsLeaves_union {first second : Footprint} (h : ReadsLeaves first)
    (h' : ReadsLeaves second) : ReadsLeaves (first.union second) := by
  intro path hpath
  rcases List.mem_append.mp hpath with hpath | hpath
  · exact h path hpath
  · exact h' path hpath

theorem readsLeaves_of_reads_nil {footprint : Footprint} (h : footprint.reads = []) :
    ReadsLeaves footprint := by
  intro path hpath
  rw [h] at hpath
  cases hpath

theorem readsLeaves_receiver (receiver : UpstreamReceiver) : ReadsLeaves receiver.footprint :=
  fun _ hpath => ⟨_, _, List.mem_cons_self, List.mem_singleton.mp hpath⟩

theorem readsLeaves_echo (monitor : EchoMonitor) : ReadsLeaves monitor.footprint := by
  intro path hpath
  rcases List.mem_cons.mp hpath with rfl | hstamp
  · exact ⟨_, _, List.mem_cons_of_mem _ List.mem_cons_self, rfl⟩
  · obtain ⟨leaf, hleaf, rfl⟩ := List.mem_map.mp hstamp
    exact ⟨_, leaf, List.mem_cons_of_mem _ (List.mem_cons_of_mem _ hleaf), rfl⟩

theorem readsLeaves_link (master : Master) : ReadsLeaves master.linkFootprint := by
  unfold Master.linkFootprint
  split
  · exact readsLeaves_echo _
  · exact readsLeaves_union (readsLeaves_receiver _) (readsLeaves_echo _)

theorem readsLeaves_footprint (design : Design) (settings : CalibrationSettings) (call : Call) :
    ReadsLeaves (call.footprint design settings) := by
  have hmeasure : ∀ controlSfp channel?, ReadsLeaves
      (design.master.linkFootprint.union (design.routeFootprint controlSfp channel?)) :=
    fun _ _ => readsLeaves_union (readsLeaves_link _) (readsLeaves_of_reads_nil rfl)
  have happly : ∀ measureRtt controlSfp channel?,
      ReadsLeaves (design.applyFootprint settings measureRtt controlSfp channel?) := by
    intro measureRtt controlSfp channel?
    refine readsLeaves_union ?_ (readsLeaves_of_reads_nil rfl)
    cases measureRtt with
    | false => exact readsLeaves_of_reads_nil rfl
    | true => exact hmeasure _ _
  have hscan : ReadsLeaves design.scanFootprint := by
    refine readsLeaves_union ?_ (readsLeaves_of_reads_nil rfl)
    unfold lockFootprint
    split
    · exact readsLeaves_of_reads_nil rfl
    · exact readsLeaves_receiver _
  cases call with
  | measure address controlSfp channel? => exact hmeasure _ _
  | measureDirect address controlSfp => exact hmeasure _ _
  | apply address delay measureRtt controlSfp channel? => exact happly _ _ _
  | applyStored endpoint measureRtt => exact happly _ _ _
  | scan count => exact hscan
  | switchMux channel waitForLock => exact hscan
  | configure => exact readsLeaves_of_reads_nil rfl

/-- No call writes a register that any call reads. -/
theorem notMem_writes_of_mem_reads {settings settings' : CalibrationSettings} {call other : Call}
    {path : String} (h : path ∈ (call.footprint design settings).reads) :
    path ∉ (other.footprint design settings').writes := by
  have hwritten : ∀ leaf ∈ readLeaves, ∀ written ∈ writtenLeaves,
      RegisterBlock.Apart leaf written := by decide
  have hcontrol : ∀ leaf ∈ readLeaves, RegisterBlock.Apart leaf "csr.ctrl.tx" := by decide
  have hselect : ∀ leaf ∈ readLeaves, RegisterBlock.Apart leaf "csr.ctrl.mux" := by decide
  obtain ⟨block, leaf, hleaf, rfl⟩ := design.readsLeaves_footprint settings call path h
  exact design.spares_footprint settings' other (hwritten leaf hleaf)
    (fun _ => hcontrol leaf hleaf) (fun _ => hselect leaf hleaf) block

/-! ### What the journal shows -/

/-- What is known of the registers that a call touches on a bench. -/
structure Confined (design : Design) (settings : CalibrationSettings) (call : Call)
    (bench : Bench) : Prop where
  /-- Every access is one of its registers, and in its direction. -/
  covers : ∀ a ∈ (call.perform design settings).commits bench,
    (call.footprint design settings).Covers a
  /-- A call that does not control transmitters leaves their control register alone. -/
  control : call.controlsSfp design = false →
    ∀ a ∈ (call.perform design settings).commits bench,
      ¬ a.IsWriteTo design.master.transmitters.controlPath
  /-- A call that does not select a channel leaves the register of any multiplexer alone. -/
  select : call.selects = false → ∀ mux : FanoutMux,
    ∀ a ∈ (call.perform design settings).commits bench, ¬ a.IsWriteTo mux.selectPath
  /-- What it reads is never written, by itself or by any other call on any bench. -/
  apart : ∀ (other : Call) (settings' : CalibrationSettings) (bench' : Bench),
    bench'.bus.queue = [] → ∀ a ∈ (call.perform design settings).commits bench,
      ∀ b ∈ (other.perform design settings').commits bench',
        a.kind = .read → b.kind = .write → a.path ≠ b.path

/-- Whatever the device and the bench do, and whatever the blocks are called, a call that starts
with nothing queued is confined to its registers. -/
theorem confined (design : Design) (settings : CalibrationSettings) (call : Call)
    (hidle : bench.bus.queue = []) : design.Confined settings call bench where
  covers _ := covers_of_mem_commits (design.within_perform settings call) hidle
  control hcontrol a ha := by
    have hapart : ∀ written ∈ writtenLeaves, RegisterBlock.Apart "csr.ctrl.tx" written := by decide
    have hselect : RegisterBlock.Apart "csr.ctrl.tx" "csr.ctrl.mux" := by decide
    refine not_isWriteTo_of_within (design.within_perform settings call) hidle ?_ ha
    refine design.spares_footprint settings call hapart (fun h => ?_) (fun _ => hselect) _
    rw [hcontrol] at h
    cases h
  select hselect mux a ha := by
    have hapart : ∀ written ∈ writtenLeaves, RegisterBlock.Apart "csr.ctrl.mux" written := by decide
    have hcontrol : RegisterBlock.Apart "csr.ctrl.mux" "csr.ctrl.tx" := by decide
    refine not_isWriteTo_of_within (design.within_perform settings call) hidle ?_ ha
    refine design.spares_footprint settings call hapart (fun _ => hcontrol) (fun h => ?_) mux.block
    rw [hselect] at h
    cases h
  apart other settings' bench' hidle' a ha b hb hread hwrite heq := by
    have hcovers := covers_of_mem_commits (design.within_perform settings call) hidle ha
    have hcovers' := covers_of_mem_commits (design.within_perform settings' other) hidle' hb
    simp only [Footprint.Covers, hread] at hcovers
    simp only [Footprint.Covers, hwrite, ← heq] at hcovers'
    exact notMem_writes_of_mem_reads hcovers hcovers'

/-- A design whose blocks all have the empty name, so that its paths are bare leaves. -/
def nameless : Design :=
  let registers : RegisterMap :=
    { timestamp := "", echo := "", sfp := "", delay := "", commands := "", upstream := "",
      mux := "" }
  let config : DesignConfig := { DesignConfig.standard with registers }
  { config
    master := .ofConfig config true
    mux := some { block := ⟨registers.mux⟩, count := config.muxChannelCount } }

/-- A scan of such a design that is cancelled in its third dispatch and whose sixth would fail. -/
theorem confined_nameless :
    let bench : Bench :=
      { bus := Bus.failAfter {} 5 "line lost"
        token := { dispatchesLeft := some 3 }
        wallClock := (answering 0).wallClock }
    bench.bus.queue = [] ∧ nameless.Confined (.ofConfig nameless.config) (.scan 8) bench :=
  ⟨rfl, nameless.confined _ _ rfl⟩

end Design

end OpticalTiming
