import OpticalTiming.Design.Basic
import OpticalTiming.Proofs.Exchange
import OpticalTiming.Proofs.Footprint
import OpticalTiming.Proofs.RegisterPath

/-!
# The device procedures as sequences of exchanges

Each procedure of a device block is a sequence of exchanges, waits and decisions, and the equations
of this module say which (`enable_eq`, `measure_eq`, `program_eq`, `select_eq`, `isolate_eq`,
`release_eq`). Beside each stands the footprint of the procedure.
-/

namespace OpticalTiming

open Procedure

namespace Procedure

variable {α β : Type} {footprint : Footprint}

/-- An attempt whose failure is thrown again is no attempt. -/
theorem attempt_bind_rethrow (p : Procedure α) {f : Except Error α → Procedure β}
    (h : ∀ e, f (.error e) = fail e) : (p.attempt >>= f) = p >>= fun a => f (.ok a) := by
  induction p with
  | done a => rfl
  | fail e => exact h e
  | ask request next ih =>
    rw [attempt, ask_bind, ask_bind]
    exact congrArg (ask request) (funext ih)

/-! ### Footprints of exchanges -/

theorem within_send {pairs : List (String × UInt32)}
    (h : ∀ pair ∈ pairs, pair.1 ∈ footprint.writes) : (send pairs).Within footprint :=
  (sequential_within footprint).send (fun pair hmem => within_write pair.2 (h pair hmem))
    within_dispatch

theorem within_fetch {block : RegisterBlock} {leaf : String}
    (h : block.path leaf ∈ footprint.reads) : (block.fetch leaf).Within footprint :=
  (sequential_within footprint).fetch (within_read h) within_dispatch within_value

theorem within_snapshot {block : RegisterBlock} {leaves : List String}
    (h : ∀ leaf ∈ leaves, block.path leaf ∈ footprint.reads) :
    (block.snapshot leaves).Within footprint :=
  (sequential_within footprint).snapshot (fun leaf hmem => within_read (h leaf hmem))
    within_dispatch within_value

end Procedure

/-! ### The upstream receiver -/

namespace UpstreamReceiver

/-- The register that restarts the receiver. -/
def enablePath (receiver : UpstreamReceiver) : String := receiver.block.path "csr.ctrl.ep_en"

/-- The register that tells whether the receiver has locked. -/
def statusPath (receiver : UpstreamReceiver) : String := receiver.block.path "csr.stat.ep_stat"

/-- The registers that a restart of the receiver touches. -/
def footprint (receiver : UpstreamReceiver) : Footprint where
  reads := [receiver.statusPath]
  writes := [receiver.enablePath]

/-- The wait for the lock that follows a restart. -/
def awaitLock (receiver : UpstreamReceiver) : Procedure PollOutcome :=
  pollUntil receiver.options.pollInterval.toNat receiver.options.timeout.toNat receiver.checkReady

theorem enable_eq (receiver : UpstreamReceiver) :
    receiver.enable = (do
      send [(receiver.enablePath, 0)]
      send [(receiver.enablePath, 1)]
      let outcome ← receiver.awaitLock
      pure outcome.satisfied) := rfl

theorem within_checkReady (receiver : UpstreamReceiver) :
    receiver.checkReady.Within receiver.footprint :=
  (within_fetch List.mem_cons_self).bind fun _ => trivial

theorem within_enable (receiver : UpstreamReceiver) :
    receiver.enable.Within receiver.footprint := by
  have hsend : ∀ value, (send [(receiver.enablePath, value)]).Within receiver.footprint := by
    intro value
    refine within_send fun pair hpair => ?_
    rw [List.mem_singleton.mp hpair]
    exact List.mem_cons_self
  rw [enable_eq]
  exact (hsend 0).bind fun _ => (hsend 1).bind fun _ =>
    (within_pollUntil receiver.within_checkReady).bind fun _ => trivial

end UpstreamReceiver

/-! ### The echo monitor -/

namespace EchoMonitor

/-- The register whose write sends an echo. -/
def strobePath (monitor : EchoMonitor) : String := monitor.block.path "csr.ctrl.go"

/-- The register that tells whether an echo has come back. -/
def donePath (monitor : EchoMonitor) : String := monitor.block.path "csr.stat.rx_done"

/-- The leaves that hold the timestamps of an echo. -/
def stampLeaves : List String := ["csr.tx_h", "csr.tx_l", "csr.rx_h", "csr.rx_l"]

/-- They are apart from the two leaves that polls look at. -/
theorem apart_of_mem_stampLeaves {leaf : String} (h : leaf ∈ stampLeaves) :
    RegisterBlock.Apart leaf "csr.stat.ep_stat" ∧
      RegisterBlock.Apart leaf "csr.stat.rx_done" := by
  have hall : ∀ leaf ∈ stampLeaves, RegisterBlock.Apart leaf "csr.stat.ep_stat" ∧
      RegisterBlock.Apart leaf "csr.stat.rx_done" := by decide
  exact hall leaf h

/-- The wait for the done bit that follows the strobe. -/
def awaitEcho (monitor : EchoMonitor) (options : EchoOptions) : Procedure PollOutcome :=
  pollUntil options.pollInterval.toNat options.timeout.toNat monitor.checkDone

/-- The part of a measurement after the strobe. -/
def collectEcho (monitor : EchoMonitor) (options : EchoOptions) : Procedure RoundTrip := do
  let outcome ← monitor.awaitEcho options
  if outcome.satisfied then
    monitor.readRoundTrip
  else
    throw (.echoTimeout options.timeout)

/-- The result of a trip, without the trip. -/
def resultOf (p : Procedure (Except Error RoundTrip × EchoTrip)) : Procedure RoundTrip := do
  let (result, _) ← p
  Procedure.ofExcept result

theorem resultOf_finish (trip : EchoTrip) :
    resultOf trip.finish = trip.monitor.readRoundTrip := by
  rw [resultOf, EchoTrip.finish, bind_assoc, attempt_bind_rethrow _ fun e => rfl]
  exact bind_done _

theorem resultOf_awaitDone (trip : EchoTrip) :
    resultOf trip.awaitDone = trip.monitor.collectEcho trip.options := by
  rw [resultOf, EchoTrip.awaitDone, bind_assoc, attempt_bind_rethrow _ fun e => rfl]
  refine congrArg (trip.monitor.awaitEcho trip.options >>= ·) (funext fun outcome => ?_)
  dsimp only
  split
  · exact resultOf_finish _
  · rfl

/-- A trip that may run is a strobe, the wait for the done bit and the look at the timestamps, each
of which ends it by its failure. -/
theorem resultOf_run {trip : EchoTrip} (hidle : trip.state = .idle) :
    resultOf trip.run = (do
      send [(trip.monitor.strobePath, 1)]
      trip.monitor.collectEcho trip.options) := by
  -- A failure only changes the state of the trip before it is reported.
  rw [resultOf, EchoTrip.run, if_pos hidle, bind_assoc, attempt_bind_rethrow _ fun e => rfl]
  exact congrArg (send [(trip.monitor.strobePath, 1)] >>= ·)
    (funext fun _ => resultOf_awaitDone _)

/-- A measurement is a new trip. -/
theorem measure_eq (monitor : EchoMonitor) (options : EchoOptions) :
    monitor.measure options = (do
      send [(monitor.strobePath, 1)]
      monitor.collectEcho options) :=
  resultOf_run rfl

/-- The registers that are touched after the strobe: none of them is written. -/
def collectFootprint (monitor : EchoMonitor) : Footprint where
  reads := monitor.donePath :: stampLeaves.map monitor.block.path
  writes := []

/-- The registers that a measurement touches. -/
def footprint (monitor : EchoMonitor) : Footprint where
  reads := monitor.collectFootprint.reads
  writes := [monitor.strobePath]

theorem within_collectEcho (monitor : EchoMonitor) (options : EchoOptions) :
    (monitor.collectEcho options).Within monitor.collectFootprint := by
  have hcheck : monitor.checkDone.Within monitor.collectFootprint :=
    (within_fetch List.mem_cons_self).bind fun _ => trivial
  have hstamps : (monitor.block.snapshot stampLeaves).Within monitor.collectFootprint :=
    within_snapshot fun leaf hleaf => List.mem_cons_of_mem _ (List.mem_map_of_mem hleaf)
  refine (within_pollUntil hcheck).bind fun outcome => ?_
  split
  · exact hstamps.bind fun stamps => within_ofExcept _
  · trivial

theorem within_measure (monitor : EchoMonitor) (options : EchoOptions) :
    (monitor.measure options).Within monitor.footprint := by
  rw [measure_eq]
  refine (within_send fun pair hpair => ?_).bind fun _ =>
    (monitor.within_collectEcho options).mono (List.Subset.refl _) (List.nil_subset _)
  rw [List.mem_singleton.mp hpair]
  exact List.mem_cons_self

end EchoMonitor

/-! ### Transmitters, delay lines and multiplexers -/

theorem EndpointAddress.checkTarget_eq_ok_iff {address : EndpointAddress} :
    address.checkTarget = .ok () ↔ address.IsTarget := by
  unfold checkTarget
  split
  case isTrue h => exact iff_of_true rfl h
  case isFalse h => exact iff_of_false (by rintro ⟨⟩) h

theorem EndpointAddress.IsTarget.checkField {address : EndpointAddress} (h : address.IsTarget) :
    address.checkField = .ok () :=
  if_pos h.2

namespace TransmitterControl

/-- The writes that leave only the transmitter of an address switched on. -/
def isolation (control : TransmitterControl) (address : EndpointAddress) :
    List (String × UInt32) :=
  [(control.controlPath, 0), (control.controlPath, address.value ||| enableBit)]

theorem path_of_mem_isolation {control : TransmitterControl} {address : EndpointAddress}
    {pair : String × UInt32} (h : pair ∈ control.isolation address) :
    pair.1 = control.controlPath := by
  rcases List.mem_cons.mp h with rfl | h
  · rfl
  · rw [List.mem_singleton.mp h]

theorem switch_on (control : TransmitterControl) {address : EndpointAddress}
    (h : address.IsTarget) :
    control.switch address true = write control.controlPath (address.value ||| enableBit) := by
  rw [switch, h.checkField]
  rfl

theorem switch_off (control : TransmitterControl) {address : EndpointAddress}
    (h : address.IsTarget) :
    control.switch address false = write control.controlPath address.value := by
  have hword : controlWord address false = address.value := UInt32.or_zero
  rw [switch, h.checkField, hword]
  rfl

end TransmitterControl

namespace DelayLine

/-- The leaves that are written to program the delays of an endpoint. -/
def leaves : List String :=
  ["csr.ctrl.addr", "csr.ctrl.cdel", "csr.ctrl.fdel", "csr.ctrl.pdel", "csr.ctrl.update",
    "csr.ctrl.go"]

/-- The writes that program the delays of an endpoint, by full path. -/
def pairs (line : DelayLine) (address : EndpointAddress) (delay : DelayParameters) :
    List (String × UInt32) :=
  [(line.block.path "csr.ctrl.addr", address.value),
    (line.block.path "csr.ctrl.cdel", delay.coarse),
    (line.block.path "csr.ctrl.fdel", delay.fine),
    (line.block.path "csr.ctrl.pdel", delay.phase),
    (line.block.path "csr.ctrl.update", 1),
    (line.block.path "csr.ctrl.go", 1)]

theorem program_eq (line : DelayLine) {address : EndpointAddress} (h : address.IsTarget)
    (delay : DelayParameters) : line.program address delay = send (line.pairs address delay) := by
  rw [program, EndpointAddress.checkTarget_eq_ok_iff.mpr h]
  rfl

/-- Whether an access writes a register of the delay line. -/
def IsWrittenBy (line : DelayLine) (a : Access) : Prop :=
  ∃ leaf ∈ leaves, a.IsWriteTo (line.block.path leaf)

/-- Only the delays themselves are written when delays are programmed. -/
theorem exists_leaf_of_mem_pairs {line : DelayLine} {address : EndpointAddress}
    {delay : DelayParameters} {pair : String × UInt32} (h : pair ∈ line.pairs address delay) :
    ∃ leaf ∈ leaves, pair.1 = line.block.path leaf := by
  have hpath : pair.1 ∈ leaves.map line.block.path :=
    List.mem_map_of_mem (f := Prod.fst) h
  obtain ⟨leaf, hleaf, heq⟩ := List.mem_map.mp hpath
  exact ⟨leaf, hleaf, heq.symm⟩

/-- A delay line that is not the block of an echo monitor does not have its strobe. -/
theorem path_ne_strobePath {line : DelayLine} {monitor : EchoMonitor}
    (hblocks : monitor.block ≠ line.block) {leaf : String} (hleaf : leaf ∈ leaves) :
    line.block.path leaf ≠ monitor.strobePath := by
  have hstrobe : ∀ leaf ∈ leaves,
      leaf = "csr.ctrl.go" ∨ RegisterBlock.Apart leaf "csr.ctrl.go" := by decide
  rcases hstrobe leaf hleaf with rfl | hapart
  · -- The two strobes have one leaf, so only their blocks tell them apart.
    intro heq
    exact hblocks (RegisterBlock.path_injective _ heq).symm
  · exact RegisterBlock.path_ne_of_apart hapart line.block monitor.block

end DelayLine

/-- The writes that load a value into the counter. -/
def TimestampCounter.load (counter : TimestampCounter) (word : TimestampWord) :
    List (String × UInt32) :=
  [(counter.block.path "ctr.set_h", word.high), (counter.block.path "ctr.set_l", word.low)]

theorem TimestampCounter.set_eq (counter : TimestampCounter) (word : TimestampWord) :
    counter.set word = send (counter.load word) := rfl

theorem FanoutMux.select_eq {mux : FanoutMux} {channel : MuxChannel}
    (h : mux.checkChannel channel = .ok ()) :
    mux.select channel = send [(mux.selectPath, channel.index)] := by
  rw [select, h]
  rfl

/-! ### The master -/

namespace Master

theorem isolate_eq (master : Master) {address : EndpointAddress} (h : address.IsTarget) :
    master.isolate address = send (master.transmitters.isolation address) := by
  rw [isolate, TransmitterControl.switch_on _ h]
  rfl

theorem release_eq (master : Master) {address : EndpointAddress} (h : address.IsTarget) :
    master.release address = send [(master.transmitters.controlPath, address.value)] := by
  rw [release, TransmitterControl.switch_off _ h]
  rfl

/-- The registers that locking and measuring touch. -/
def linkFootprint (master : Master) : Footprint :=
  match master.upstream with
  | none => master.echo.footprint
  | some receiver => receiver.footprint.union master.echo.footprint

theorem lockAndEcho_of_none {master : Master} (h : master.upstream = none)
    (address : EndpointAddress) :
    master.lockAndEcho address = master.echo.measure master.echoOptions := by
  rw [lockAndEcho, h]

theorem lockAndEcho_of_some {master : Master} {receiver : UpstreamReceiver}
    (h : master.upstream = some receiver) (address : EndpointAddress) :
    master.lockAndEcho address = (do
      if ← receiver.enable then
        master.echo.measure master.echoOptions
      else
        throw (.lockFailure s!"upstream endpoint for {address.text}")) := by
  rw [lockAndEcho, h]

theorem within_lockAndEcho (master : Master) (address : EndpointAddress) :
    (master.lockAndEcho address).Within master.linkFootprint := by
  cases h : master.upstream with
  | none =>
    rw [lockAndEcho_of_none h, linkFootprint, h]
    exact master.echo.within_measure _
  | some receiver =>
    rw [lockAndEcho_of_some h, linkFootprint, h]
    refine (receiver.within_enable.left _).bind fun locked => ?_
    split
    · exact (master.echo.within_measure _).right _
    · trivial

/-- Locking and measuring write no register but the enable register of the receiver and the strobe
of the echo monitor. -/
theorem path_notMem_linkFootprint {master : Master} {block : RegisterBlock} {leaf : String}
    (hstrobe : block.path leaf ≠ master.echo.strobePath)
    (henable : RegisterBlock.Apart leaf "csr.ctrl.ep_en") :
    block.path leaf ∉ master.linkFootprint.writes := by
  unfold linkFootprint
  intro hmem
  -- The enable register is among the written ones only if there is a receiver.
  split at hmem
  · exact hstrobe (List.mem_singleton.mp hmem)
  · rename_i receiver _
    rcases List.mem_append.mp hmem with hmem | hmem
    · have hen : block.path leaf ≠ receiver.enablePath :=
        RegisterBlock.path_ne_of_apart henable block receiver.block
      exact hen (List.mem_singleton.mp hmem)
    · exact hstrobe (List.mem_singleton.mp hmem)

theorem controlPath_notMem_linkFootprint (master : Master) :
    master.transmitters.controlPath ∉ master.linkFootprint.writes := by
  have hstrobe : RegisterBlock.Apart "csr.ctrl.tx" "csr.ctrl.go" := by decide
  have henable : RegisterBlock.Apart "csr.ctrl.tx" "csr.ctrl.ep_en" := by decide
  exact path_notMem_linkFootprint (RegisterBlock.path_ne_of_apart hstrobe _ _) henable

theorem selectPath_notMem_linkFootprint (master : Master) (mux : FanoutMux) :
    mux.selectPath ∉ master.linkFootprint.writes := by
  have hstrobe : RegisterBlock.Apart "csr.ctrl.mux" "csr.ctrl.go" := by decide
  have henable : RegisterBlock.Apart "csr.ctrl.mux" "csr.ctrl.ep_en" := by decide
  exact path_notMem_linkFootprint (RegisterBlock.path_ne_of_apart hstrobe _ _) henable

/-- Locking and measuring write no register of the delay line, if that is not the block of the echo
monitor. -/
theorem delay_notMem_linkFootprint {master : Master}
    (hblocks : master.echo.block ≠ master.delayLine.block) {leaf : String}
    (hleaf : leaf ∈ DelayLine.leaves) :
    master.delayLine.block.path leaf ∉ master.linkFootprint.writes := by
  have henable : ∀ leaf ∈ DelayLine.leaves, RegisterBlock.Apart leaf "csr.ctrl.ep_en" := by decide
  exact path_notMem_linkFootprint (DelayLine.path_ne_strobePath hblocks hleaf) (henable leaf hleaf)

end Master

end OpticalTiming
