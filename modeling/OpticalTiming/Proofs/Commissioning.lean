import Mathlib.Data.List.TakeWhile
import OpticalTiming.Proofs.Configuring
import OpticalTiming.Proofs.Harmless
import OpticalTiming.Proofs.Rejecting
import OpticalTiming.Proofs.Repeating

/-!
# Configuring a design that nobody has checked

A design need not come from a registry, so that any of its endpoints may be one that it cannot
program. `applyAll_eq_verdict` says that the endpoints before the first such one are programmed, and
that what is wrong with it is the error of the list. Together with the load of the counter these
are the batches of a whole configuration (`configureAt_eq`).

`commissions` is the result: what `Design.configure` commits and how it ends, on any design and with
any token. None of it selects a channel or switches a transmitter on (`dark_of_mem_batches`).
-/

namespace OpticalTiming

open Procedure

namespace Design

variable {design : Design} {settings : CalibrationSettings} {bench : Bench}
  {endpoint : StoredCalibration} {word : TimestampWord} {e : Error}

/-! ### Endpoints that cannot be programmed -/

/-- What is wrong with an endpoint of a design. -/
def endpointVerdict? (design : Design) (endpoint : StoredCalibration) : Option Error :=
  design.verdict? endpoint.address endpoint.muxChannel

/-- The endpoints of a list before the first one with which something is wrong. -/
def programmable (design : Design) (endpoints : List StoredCalibration) :
    List StoredCalibration :=
  endpoints.takeWhile fun endpoint => (design.endpointVerdict? endpoint).isNone

/-- How programming a list of endpoints ends: with what is wrong with the first endpoint with which
something is wrong. -/
def verdict (design : Design) (endpoints : List StoredCalibration) : Except Error Unit :=
  match endpoints.findSome? design.endpointVerdict? with
  | none => .ok ()
  | some e => .error e

/-- An endpoint with which nothing is wrong can be programmed. -/
theorem reaches_of_verdict (h : design.endpointVerdict? endpoint = none) :
    design.Reaches endpoint := by
  have hnone : (design.verdict? endpoint.address endpoint.muxChannel).isNone :=
    Option.isNone_iff_eq_none.mpr h
  have haccepts : design.Accepts ⟨endpoint.address, true, endpoint.muxChannel⟩ :=
    (design.verdict?_isNone_iff ⟨endpoint.address, true, endpoint.muxChannel⟩).mp hnone
  exact ⟨haccepts.target, haccepts.channel⟩

theorem reaches_of_mem_programmable {endpoints : List StoredCalibration}
    (h : endpoint ∈ design.programmable endpoints) : design.Reaches endpoint := by
  unfold programmable at h
  have hnone := List.mem_takeWhile_imp h
  exact reaches_of_verdict (Option.isNone_iff_eq_none.mp hnone)

/-- Any other endpoint is refused by its verdict, before anything is done. -/
theorem applyStored_of_verdict (settings : CalibrationSettings)
    (h : design.endpointVerdict? endpoint = some e) :
    (design.calibrationWith settings).applyStored endpoint false = fail e := by
  rw [endpointVerdict?, verdict?, ← refusal?_checkTarget,
    ← refusal?_checkChannel design settings] at h
  cases htarget : endpoint.address.checkTarget with
  | error refusal =>
    rw [htarget] at h
    cases h
    exact apply_refused htarget
  | ok u =>
    rw [htarget] at h
    cases hchannel : (design.calibrationWith settings).checkChannel endpoint.muxChannel with
    | error refusal =>
      rw [hchannel] at h
      cases h
      exact apply_noChannel (EndpointAddress.checkTarget_eq_ok_iff.mp htarget) hchannel
    | ok u =>
      rw [hchannel] at h
      cases h

/-- The endpoints of any list are programmed in order up to the first one with which something is
wrong. -/
theorem applyAll_eq_verdict (settings : CalibrationSettings)
    (endpoints : List StoredCalibration) :
    applyAll (design.calibrationWith settings) endpoints = (do
      sendAll ((design.programmable endpoints).flatMap (design.delivery settings))
      Procedure.ofExcept (design.verdict endpoints)) := by
  induction endpoints with
  | nil => rfl
  | cons endpoint rest ih =>
    unfold programmable verdict at ih ⊢
    rw [applyAll, List.takeWhile_cons, List.findSome?_cons]
    cases hverdict : design.endpointVerdict? endpoint with
    | none =>
      rw [applyStored_eq settings (reaches_of_verdict hverdict), ih]
      simp only [Option.isNone_none, if_true, List.flatMap_cons, sendAll_append, bind_assoc]
      rfl
    | some e =>
      rw [applyStored_of_verdict settings hverdict]
      rfl

/-! ### The batches of a configuration -/

/-- The batches of writes that configure a design: the load of the counter, and then the endpoints
up to the first one with which something is wrong. -/
def batches (design : Design) (word : TimestampWord) : List (List (String × UInt32)) :=
  design.master.counter.load word ::
    (design.programmable design.config.endpoints).flatMap
      (design.delivery (.ofConfig design.config))

/-- Configuring at a time that fits the counter sends these batches. -/
theorem configureAt_eq {time : UtcTime}
    (h : TimestampWord.ofUtc time design.master.clockHz = .ok word) :
    design.configureAt time = (do
      sendAll (design.batches word)
      Procedure.ofExcept ((design.verdict design.config.endpoints).map fun _ => word)) := by
  rw [configureAt, h, calibration, applyAll_eq_verdict, batches, sendAll]
  simp only [bind_assoc]
  cases design.verdict design.config.endpoints <;> rfl

/-- A time that does not fit the counter ends a configuration at once. -/
theorem run_configure_untimely
    (h : TimestampWord.ofUtc bench.wallClock design.master.clockHz = .error e) :
    design.configure.run bench = (.error e, bench) ∧ design.configure.commits bench = [] := by
  have hfail : design.configureAt bench.wallClock = fail e := by
    rw [configureAt, h]
    rfl
  have hstart : wallClock.run bench = (.ok bench.wallClock, bench) := run_wallClock bench
  rw [configure_eq]
  constructor
  · rw [run_bind_of_ok hstart, hfail, run_fail]
  · rw [commits_bind_of_ok hstart, hfail, commits_wallClock, commits_fail]
    rfl

/-- Only times are refused that a counter cannot hold, and by an error that says so. -/
theorem exists_text_of_ofUtc {time : UtcTime} {hz : UInt64}
    (h : TimestampWord.ofUtc time hz = .error e) : ∃ text, e = .protocol text := by
  unfold TimestampWord.ofUtc at h
  split at h
  · cases h
    exact ⟨_, rfl⟩
  · split at h
    · cases h
    · cases h
      exact ⟨_, rfl⟩

/-- Nothing is wrong with any endpoint just if all endpoints are programmed. -/
theorem verdict_eq_ok_iff (endpoints : List StoredCalibration) :
    design.verdict endpoints = .ok () ↔ design.programmable endpoints = endpoints := by
  have hnone : design.verdict endpoints = .ok () ↔
      endpoints.findSome? design.endpointVerdict? = none := by
    unfold verdict
    cases endpoints.findSome? design.endpointVerdict? with
    | none => exact iff_of_true rfl rfl
    | some e => exact iff_of_false (by rintro ⟨⟩) (by rintro ⟨⟩)
  rw [hnone, List.findSome?_eq_none_iff, programmable, List.takeWhile_eq_self_iff]
  simp only [Option.isNone_iff_eq_none]

/-! ### What the batches leave alone -/

/-- Whether a write leaves every multiplexer as it is, and switches no transmitter on. -/
def Dark (pair : String × UInt32) : Prop :=
  (∀ mux : FanoutMux, pair.1 ≠ mux.selectPath) ∧
    ∀ control : TransmitterControl, pair.1 = control.controlPath →
      pair.2 &&& TransmitterControl.enableBit = 0

/-- Whether a register is neither one that selects channels nor one that controls transmitters can
be seen from its leaf. -/
theorem dark_of_apart {leaf : String} (hselect : RegisterBlock.Apart leaf "csr.ctrl.mux")
    (hcontrol : RegisterBlock.Apart leaf "csr.ctrl.tx") (block : RegisterBlock) (value : UInt32) :
    Dark (block.path leaf, value) :=
  ⟨fun mux => RegisterBlock.path_ne_of_apart hselect block mux.block,
    fun control heq => absurd heq (RegisterBlock.path_ne_of_apart hcontrol block control.block)⟩

theorem dark_of_mem_load {counter : TimestampCounter} {pair : String × UInt32}
    (h : pair ∈ counter.load word) : Dark pair := by
  rcases List.mem_cons.mp h with rfl | h
  · exact dark_of_apart (by decide) (by decide) counter.block word.high
  · rw [List.mem_singleton.mp h]
    exact dark_of_apart (by decide) (by decide) counter.block word.low

theorem dark_of_mem_pairs {line : DelayLine} {address : EndpointAddress} {delay : DelayParameters}
    {pair : String × UInt32} (h : pair ∈ line.pairs address delay) : Dark pair := by
  have hleaves : ∀ leaf ∈ DelayLine.leaves,
      RegisterBlock.Apart leaf "csr.ctrl.mux" ∧ RegisterBlock.Apart leaf "csr.ctrl.tx" := by decide
  obtain ⟨leaf, hleaf, hpath⟩ := DelayLine.exists_leaf_of_mem_pairs h
  have hdark := dark_of_apart (hleaves leaf hleaf).1 (hleaves leaf hleaf).2 line.block pair.2
  rwa [← hpath] at hdark

/-- The word of a release is an address, which does not reach up to the enable bit. -/
theorem dark_release {address : EndpointAddress} (htarget : address.IsTarget)
    (control : TransmitterControl) : Dark (control.controlPath, address.value) :=
  ⟨fun mux => controlPath_ne_selectPath control mux, fun _ _ => and_enableBit_eq_zero htarget⟩

theorem dark_of_mem_delivery (h : design.Reaches endpoint) {batch : List (String × UInt32)}
    (hbatch : batch ∈ design.delivery settings endpoint) {pair : String × UInt32}
    (hpair : pair ∈ batch) : Dark pair := by
  rcases List.mem_cons.mp hbatch with rfl | hbatch
  · exact dark_of_mem_pairs hpair
  · split at hbatch
    · rw [List.mem_singleton.mp hbatch] at hpair
      rw [List.mem_singleton.mp hpair]
      exact dark_release h.1 _
    · cases hbatch

/-- A configuration selects no channel and switches no transmitter on. -/
theorem dark_of_mem_batches {batch : List (String × UInt32)} (hbatch : batch ∈ design.batches word)
    {pair : String × UInt32} (hpair : pair ∈ batch) : Dark pair := by
  rcases List.mem_cons.mp hbatch with rfl | hbatch
  · exact dark_of_mem_load hpair
  · obtain ⟨endpoint, hmem, hdelivery⟩ := List.mem_flatMap.mp hbatch
    have hreaches : design.Reaches endpoint := reaches_of_mem_programmable hmem
    exact dark_of_mem_delivery hreaches hdelivery hpair

/-! ### The whole configuration -/

/-- How configuring a design goes, whatever its endpoints are. -/
structure Commissions (design : Design) (bench : Bench) : Prop where
  /-- A time that does not fit the counter ends the call with nothing written. -/
  untimely : ∀ e, TimestampWord.ofUtc bench.wallClock design.master.clockHz = .error e →
    (∃ text, e = .protocol text) ∧ design.configure.run bench = (.error e, bench) ∧
      design.configure.commits bench = []
  /-- Otherwise the counter is loaded and the endpoints before the first one with which something
  is wrong are programmed, in order and without a pause; what is wrong is the error. -/
  timely : ∀ word, TimestampWord.ofUtc bench.wallClock design.master.clockHz = .ok word →
    design.configure.Delivers ((design.verdict design.config.endpoints).map fun _ => word)
      (design.batches word) bench
  /-- The value that was written is returned just if all endpoints are programmed. -/
  whole : ∀ word, TimestampWord.ofUtc bench.wallClock design.master.clockHz = .ok word →
    ((design.configure.run bench).1 = .ok word ↔
      design.programmable design.config.endpoints = design.config.endpoints)
  writes : ∀ a ∈ design.configure.commits bench, a.kind = .write
  /-- No channel is selected. -/
  unselected : ∀ a ∈ design.configure.commits bench, ∀ mux : FanoutMux, a.path ≠ mux.selectPath
  /-- No transmitter is switched on. -/
  dark : ∀ a ∈ design.configure.commits bench, ∀ control : TransmitterControl,
    a.path = control.controlPath → a.value &&& TransmitterControl.enableBit = 0

/-- On a bench where nothing is queued and no dispatch is to fail, any design with any endpoints is
configured as far as that goes, whether the token is cancelled or not. -/
theorem commissions (design : Design) (h : bench.Ready) : design.Commissions bench := by
  have htimely : ∀ word, TimestampWord.ofUtc bench.wallClock design.master.clockHz = .ok word →
      design.configure.Delivers ((design.verdict design.config.endpoints).map fun _ => word)
        (design.batches word) bench := by
    intro word hword
    rw [configure_eq]
    apply Delivers.of_wallClock
    rw [configureAt_eq hword]
    exact delivers_sendAll_ofExcept _ _ h
  have huntimely : ∀ e, TimestampWord.ofUtc bench.wallClock design.master.clockHz = .error e →
      design.configure.run bench = (.error e, bench) ∧ design.configure.commits bench = [] :=
    fun e he => run_configure_untimely he
  -- Every access is one of the writes in the batches.
  have hpair : ∀ a ∈ design.configure.commits bench, a.kind = .write ∧ Dark (a.path, a.value) := by
    intro a ha
    cases hword : TimestampWord.ofUtc bench.wallClock design.master.clockHz with
    | error e =>
      rw [(huntimely e hword).2] at ha
      cases ha
    | ok word =>
      rw [(htimely word hword).commits] at ha
      obtain ⟨batch, hbatch, pair, hpair, number, rfl⟩ := Access.exists_of_mem_sent ha
      exact ⟨rfl, dark_of_mem_batches hbatch hpair⟩
  refine ⟨?_, htimely, ?_, ?_, ?_, ?_⟩
  · intro e he
    exact ⟨exists_text_of_ofUtc he, huntimely e he⟩
  · intro word hword
    rw [(htimely word hword).result_eq, ← verdict_eq_ok_iff]
    cases design.verdict design.config.endpoints with
    | ok u => exact iff_of_true rfl rfl
    | error e => exact iff_of_false (by rintro ⟨⟩) (by rintro ⟨⟩)
  · exact fun a ha => (hpair a ha).1
  · exact fun a ha mux => (hpair a ha).2.1 mux
  · exact fun a ha control hpath => (hpair a ha).2.2 control hpath

/-- A design that no registry builds: its multiplexer has two channels, and the third of its
endpoints hangs off the sixth one. -/
def handBuilt : Design where
  config :=
    { DesignConfig.standard with
      releasePolicy := .always
      endpoints :=
        [{ id := "direct", address := ⟨7⟩, delay := ⟨1, 2, 3⟩, muxChannel := none },
          { id := "switched", address := ⟨8⟩, delay := ⟨4, 5, 6⟩, muxChannel := some ⟨1⟩ },
          { id := "beyond", address := ⟨9⟩, delay := ⟨7, 8, 9⟩, muxChannel := some ⟨5⟩ },
          { id := "last", address := ⟨10⟩, delay := ⟨0, 0, 0⟩, muxChannel := none }] }
  master := .ofConfig .standard true
  mux := some { block := ⟨"io"⟩, count := 2 }

/-- Two of its endpoints are programmed. -/
theorem commissions_handBuilt :
    (answering 0).Ready ∧
      TimestampWord.ofUtc (answering 0).wallClock handBuilt.master.clockHz = .ok ⟨0⟩ ∧
      handBuilt.verdict handBuilt.config.endpoints = .error (.invalidChannel 5 2) ∧
      (handBuilt.programmable handBuilt.config.endpoints).map (·.id) = ["direct", "switched"] ∧
      handBuilt.Commissions (answering 0) :=
  have hready : (answering 0).Ready := ⟨rfl, rfl⟩
  ⟨hready, rfl, rfl, rfl, commissions handBuilt hready⟩

end Design

end OpticalTiming
