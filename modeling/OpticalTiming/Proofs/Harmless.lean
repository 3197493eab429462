import OpticalTiming.Proofs.Applying

/-!
# What sends no echo and switches no transmitter on

Two kinds of accesses matter to a link: the strobe of an echo and a word that switches a transmitter
on. All others are inert, and a procedure that commits nothing else is harmless. Everything that a
design does outside of its measurements is harmless: the release of an endpoint, the programming of
delays, scans and switches of the multiplexer, and the configuration of all stored endpoints.
-/

namespace OpticalTiming

open Procedure

namespace Design

variable {α β : Type} {design : Design} {settings : CalibrationSettings} {address : EndpointAddress}
  {controlSfp : Bool} {channel? : Option MuxChannel} {bench : Bench}

/-! ### Strobes and enabling words -/

/-- Whether an access sends an echo. -/
def IsStrobe (design : Design) (a : Access) : Prop :=
  a.IsWriteTo design.master.echo.strobePath

/-- Whether an access switches a transmitter on. -/
def IsEnabling (design : Design) (a : Access) : Prop :=
  a.IsWriteTo design.master.transmitters.controlPath ∧
    a.value &&& TransmitterControl.enableBit ≠ 0

/-- Whether an access neither sends an echo nor switches a transmitter on. -/
def Inert (design : Design) (a : Access) : Prop := ¬ design.IsStrobe a ∧ ¬ design.IsEnabling a

theorem inert_of_path_ne {a : Access} (hstrobe : a.path ≠ design.master.echo.strobePath)
    (hcontrol : a.path ≠ design.master.transmitters.controlPath) : design.Inert a :=
  ⟨fun h => hstrobe h.2, fun h => hcontrol h.1.2⟩

/-- A procedure that has neither register in its footprint commits nothing but inert accesses. -/
theorem inert_of_within {α : Type} {footprint : Footprint} {p : Procedure α}
    (hp : p.Within footprint) (hidle : bench.bus.queue = [])
    (hstrobe : design.master.echo.strobePath ∉ footprint.writes)
    (hcontrol : design.master.transmitters.controlPath ∉ footprint.writes) :
    ∀ a ∈ p.commits bench, design.Inert a :=
  fun _ ha => ⟨not_isWriteTo_of_within hp hidle hstrobe ha,
    fun h => not_isWriteTo_of_within hp hidle hcontrol ha h.1⟩

theorem strobePath_ne_controlPath (master : Master) :
    master.echo.strobePath ≠ master.transmitters.controlPath := by
  have hapart : RegisterBlock.Apart "csr.ctrl.go" "csr.ctrl.tx" := by decide
  exact RegisterBlock.path_ne_of_apart hapart _ _

theorem strobePath_ne_selectPath (master : Master) (mux : FanoutMux) :
    master.echo.strobePath ≠ mux.selectPath := by
  have hapart : RegisterBlock.Apart "csr.ctrl.go" "csr.ctrl.mux" := by decide
  exact RegisterBlock.path_ne_of_apart hapart _ _

theorem strobePath_ne_enablePath (master : Master) (receiver : UpstreamReceiver) :
    master.echo.strobePath ≠ receiver.enablePath := by
  have hapart : RegisterBlock.Apart "csr.ctrl.go" "csr.ctrl.ep_en" := by decide
  exact RegisterBlock.path_ne_of_apart hapart _ _

/-- The address of an endpoint does not reach up to the enable bit. -/
theorem and_enableBit_eq_zero (h : address.IsTarget) :
    address.value &&& TransmitterControl.enableBit = 0 := by
  -- The enable bit is the lowest one above the addresses.
  have hle : address.value.toNat ≤ 0xFFFF := UInt32.le_iff_toNat_le.mp h.2
  have hbit : address.value.toNat.testBit 16 = false :=
    Nat.testBit_lt_two_pow (by omega)
  apply UInt32.toNat_inj.mp
  rw [UInt32.toNat_and]
  show address.value.toNat &&& 2 ^ 16 = 0
  apply Nat.eq_of_testBit_eq
  intro i
  rw [Nat.testBit_and, Nat.testBit_two_pow, Nat.zero_testBit]
  by_cases hi : 16 = i
  · rw [← hi, hbit, Bool.false_and]
  · rw [decide_eq_false hi, Bool.and_false]

/-- Writes that are sent from an idle bench are all that is committed, if anything is. -/
theorem mem_commits_send {pairs : List (String × UInt32)} (hidle : bench.bus.queue = [])
    {a : Access} (ha : a ∈ (send pairs).commits bench) :
    ∃ pair ∈ pairs, a = .written (bench.bus.dispatches + 1) bench.clock pair := by
  cases exchange_send pairs bench with
  | refused message _ fault run refused commits =>
    rw [commits] at ha
    cases ha
  | committed result accesses _ fault run dispatched commits outcome =>
    rw [commits, outcome.2, Bus.flushed_of_queue_nil hidle] at ha
    obtain ⟨pair, hpair, rfl⟩ := List.mem_map.mp ha
    exact ⟨pair, hpair, rfl⟩

/-! ### Harmless procedures -/

/-- Whether a procedure takes idle benches to idle ones and commits only inert accesses there. -/
def Harmless (design : Design) (p : Procedure α) : Prop :=
  ∀ bench : Bench, bench.Idle → (p.run bench).2.Idle ∧ ∀ a ∈ p.commits bench, design.Inert a

/-- What commits nothing is harmless, if it leaves the queue alone. -/
theorem harmless_of_commits_nil {p : Procedure α}
    (hidle : ∀ bench : Bench, bench.Idle → (p.run bench).2.Idle)
    (hnone : ∀ bench, p.commits bench = []) : design.Harmless p := by
  intro bench h
  refine ⟨hidle bench h, fun a ha => ?_⟩
  rw [hnone] at ha
  cases ha

theorem harmless_done (a : α) : design.Harmless (done a) :=
  harmless_of_commits_nil (fun _ h => h) (commits_done a)

theorem harmless_fail (e : Error) : design.Harmless (fail e : Procedure α) :=
  harmless_of_commits_nil (fun _ h => h) (commits_fail e)

theorem harmless_ofExcept (r : Except Error α) : design.Harmless (Procedure.ofExcept r) := by
  cases r with
  | ok a => exact harmless_done a
  | error e => exact harmless_fail e

theorem harmless_wallClock : design.Harmless wallClock :=
  harmless_of_commits_nil (fun _ h => h) commits_wallClock

theorem Harmless.bind {p : Procedure α} {f : α → Procedure β} (hp : design.Harmless p)
    (hf : ∀ a, design.Harmless (f a)) : design.Harmless (p >>= f) := by
  intro bench h
  obtain ⟨hidle, hinert⟩ := hp bench h
  cases hrun : p.run bench with
  | mk result after =>
    rw [hrun] at hidle
    cases result with
    | error e =>
      rw [run_bind_of_error hrun, commits_bind_of_error hrun]
      exact ⟨hidle, hinert⟩
    | ok a =>
      rw [run_bind_of_ok hrun, commits_bind_of_ok hrun]
      obtain ⟨hidle', hinert'⟩ := hf a after hidle
      refine ⟨hidle', fun x hx => ?_⟩
      rcases List.mem_append.mp hx with hx | hx
      · exact hinert x hx
      · exact hinert' x hx

theorem Harmless.attempt {p : Procedure α} (hp : design.Harmless p) :
    design.Harmless p.attempt := by
  intro bench h
  rw [run_attempt, commits_attempt]
  exact hp bench h

/-! ### Exchanges -/

theorem harmless_send {pairs : List (String × UInt32)}
    (h : ∀ pair ∈ pairs, pair.1 ≠ design.master.echo.strobePath ∧
      pair.1 ≠ design.master.transmitters.controlPath) : design.Harmless (send pairs) := by
  intro bench hidle
  refine ⟨(exchange_send pairs bench).queue_run, fun a ha => ?_⟩
  obtain ⟨pair, hpair, rfl⟩ := mem_commits_send hidle ha
  exact inert_of_path_ne (h pair hpair).1 (h pair hpair).2

theorem harmless_release (h : address.IsTarget) :
    design.Harmless ((design.calibrationWith settings).release address) := by
  intro bench hidle
  rw [release_eq h]
  refine ⟨(exchange_send _ bench).queue_run, fun a ha => ?_⟩
  obtain ⟨pair, hpair, rfl⟩ := mem_commits_send hidle ha
  rw [List.mem_singleton.mp hpair]
  refine ⟨?_, ?_⟩
  · rintro ⟨-, hpath⟩
    exact strobePath_ne_controlPath _ hpath.symm
  · -- The word of a release has the register of an isolation, but not its bit.
    rintro ⟨-, hbit⟩
    exact hbit (and_enableBit_eq_zero h)

/-- Programming delays is harmless, if the delay line is not the block of the echo monitor. -/
theorem harmless_pairs (hblocks : design.master.echo.block ≠ design.master.delayLine.block)
    (delay : DelayParameters) :
    design.Harmless (send (design.master.delayLine.pairs address delay)) := by
  have hcontrol : ∀ leaf ∈ DelayLine.leaves, RegisterBlock.Apart leaf "csr.ctrl.tx" := by decide
  refine harmless_send fun pair hpair => ?_
  obtain ⟨leaf, hleaf, hpath⟩ := DelayLine.exists_leaf_of_mem_pairs hpair
  rw [hpath]
  exact ⟨DelayLine.path_ne_strobePath hblocks hleaf,
    RegisterBlock.path_ne_of_apart (hcontrol leaf hleaf) _ _⟩

/-! ### Receivers, multiplexers and counters -/

theorem harmless_enableUpstream (design : Design) :
    design.Harmless design.master.enableUpstream := by
  unfold Master.enableUpstream
  split
  · rename_i receiver _
    intro bench hidle
    refine ⟨(stable_idle.keeps_enable receiver bench hidle).1, ?_⟩
    refine inert_of_within receiver.within_enable hidle ?_ ?_
    · exact fun hmem => strobePath_ne_enablePath _ _ (List.mem_singleton.mp hmem)
    · intro hmem
      have hapart : RegisterBlock.Apart "csr.ctrl.tx" "csr.ctrl.ep_en" := by decide
      exact RegisterBlock.path_ne_of_apart hapart _ _ (List.mem_singleton.mp hmem)
  · exact harmless_fail _

theorem harmless_select (design : Design) (mux : FanoutMux) (channel : MuxChannel) :
    design.Harmless (mux.select channel) := by
  unfold FanoutMux.select
  refine (harmless_ofExcept _).bind fun _ => ?_
  show design.Harmless (send [(mux.selectPath, channel.index)])
  refine harmless_send fun pair hpair => ?_
  rw [List.mem_singleton.mp hpair]
  exact ⟨(strobePath_ne_selectPath _ mux).symm, (controlPath_ne_selectPath _ mux).symm⟩

theorem harmless_switchTo (design : Design) (mux : FanoutMux) (channel : MuxChannel)
    (waitForLock : Bool) :
    design.Harmless ((MuxScanner.ofMaster design.master mux).switchTo channel waitForLock) := by
  unfold MuxScanner.switchTo
  refine (harmless_select design mux channel).bind fun _ => ?_
  cases waitForLock with
  | false => exact harmless_done _
  | true =>
    refine (harmless_enableUpstream design).bind fun locked => ?_
    cases locked with
    | false => exact harmless_fail _
    | true => exact harmless_done _

theorem harmless_scanFrom (design : Design) (mux : FanoutMux) (first : UInt32) (count : Nat) :
    design.Harmless ((MuxScanner.ofMaster design.master mux).scanFrom first count) := by
  induction count generalizing first with
  | zero => exact harmless_done _
  | succ count ih =>
    -- Whether the channel locks or not, the scan goes on; any other error ends it.
    unfold MuxScanner.scanFrom
    refine (harmless_switchTo design mux ⟨first⟩ true).attempt.bind fun result => ?_
    cases result with
    | ok u => exact (ih (first + 1)).bind fun _ => harmless_done _
    | error e =>
      dsimp only
      split
      · exact (ih (first + 1)).bind fun _ => harmless_done _
      · exact harmless_fail _

theorem harmless_scan (design : Design) (mux : FanoutMux) (count : UInt32) :
    design.Harmless ((MuxScanner.ofMaster design.master mux).scan count) := by
  unfold MuxScanner.scan
  split
  · exact harmless_fail _
  · exact harmless_scanFrom design mux 0 count.toNat

/-- What is done with the scanner of a design. -/
theorem harmless_scanner {f : MuxScanner → Procedure α}
    (hf : ∀ mux, design.Harmless (f (.ofMaster design.master mux))) :
    design.Harmless (Procedure.ofExcept design.scanner >>= f) := by
  unfold scanner
  cases design.mux with
  | none => exact harmless_fail _
  | some mux => exact hf mux

theorem harmless_syncCounter (design : Design) : design.Harmless design.master.syncCounter := by
  have hset : ∀ word, design.Harmless (design.master.counter.set word) := by
    intro word
    have hhighStrobe : RegisterBlock.Apart "ctr.set_h" "csr.ctrl.go" := by decide
    have hhighControl : RegisterBlock.Apart "ctr.set_h" "csr.ctrl.tx" := by decide
    have hlowStrobe : RegisterBlock.Apart "ctr.set_l" "csr.ctrl.go" := by decide
    have hlowControl : RegisterBlock.Apart "ctr.set_l" "csr.ctrl.tx" := by decide
    rw [TimestampCounter.set_eq]
    refine harmless_send fun pair hpair => ?_
    rcases List.mem_cons.mp hpair with rfl | hpair
    · exact ⟨RegisterBlock.path_ne_of_apart hhighStrobe _ _,
        RegisterBlock.path_ne_of_apart hhighControl _ _⟩
    · rw [List.mem_singleton.mp hpair]
      exact ⟨RegisterBlock.path_ne_of_apart hlowStrobe _ _,
        RegisterBlock.path_ne_of_apart hlowControl _ _⟩
  unfold Master.syncCounter TimestampCounter.sync
  refine harmless_wallClock.bind fun time => ?_
  refine (harmless_ofExcept _).bind fun word => ?_
  exact (hset word).bind fun _ => harmless_done _

/-! ### Calibrations -/

theorem harmless_conclude (h : address.IsTarget) (result : Except Error RoundTrip) :
    design.Harmless (design.conclude settings address controlSfp result) := by
  cases result with
  | ok roundTrip => exact harmless_done roundTrip
  | error e =>
    have hrelease : design.Harmless (design.releaseAfter settings address controlSfp e) := by
      unfold releaseAfter
      split
      · exact harmless_release h
      · exact harmless_done _
    exact hrelease.attempt.bind fun _ => harmless_fail e

theorem harmless_finish (h : address.IsTarget) (release : Bool) (roundTrip? : Option RoundTrip) :
    design.Harmless (design.finish settings address release roundTrip?) := by
  cases release with
  | false => exact harmless_done _
  | true => exact (harmless_release h).bind fun _ => harmless_done _

/-- Whatever an application does after its measurement is harmless. -/
theorem harmless_programming (hblocks : design.master.echo.block ≠ design.master.delayLine.block)
    (h : address.IsTarget) (delay : DelayParameters) (release : Bool)
    (roundTrip? : Option RoundTrip) :
    design.Harmless (do
      send (design.master.delayLine.pairs address delay)
      design.finish settings address release roundTrip?) :=
  (harmless_pairs hblocks delay).bind fun _ => harmless_finish h release roundTrip?

theorem harmless_apply (hblocks : design.master.echo.block ≠ design.master.delayLine.block)
    (settings : CalibrationSettings) (address : EndpointAddress) (delay : DelayParameters)
    (controlSfp : Bool) (channel? : Option MuxChannel) :
    design.Harmless
      ((design.calibrationWith settings).apply address delay false controlSfp channel?) := by
  rcases design.apply_cases settings address delay false controlSfp channel? with
    ⟨e, happly⟩ | ⟨h, -, happly⟩
  · rw [happly]
    exact harmless_fail e
  · rw [happly]
    exact (harmless_done _).bind fun roundTrip? => harmless_programming hblocks h delay _ roundTrip?

theorem harmless_configure (hblocks : design.master.echo.block ≠ design.master.delayLine.block) :
    design.Harmless design.configure := by
  have happlyAll : ∀ endpoints, design.Harmless (applyAll design.calibration endpoints) := by
    intro endpoints
    induction endpoints with
    | nil => exact harmless_done _
    | cons endpoint rest ih =>
      have happly : design.Harmless (design.calibration.applyStored endpoint false) :=
        harmless_apply hblocks _ endpoint.address endpoint.delay true endpoint.muxChannel
      exact happly.bind fun _ => ih
  exact (harmless_syncCounter design).bind fun word =>
    (happlyAll design.config.endpoints).bind fun _ => harmless_done word

end Design

end OpticalTiming
