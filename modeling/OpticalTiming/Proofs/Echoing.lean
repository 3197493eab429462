import OpticalTiming.Proofs.Lifecycle
import OpticalTiming.Proofs.Polling

/-!
# Echoes on a calm bench

On a calm bench an echo is known exactly, whatever the device does: the strobe, the looks at the
done bit, one interval apart, and the four halves of the timestamps in one dispatch if the done bit
was seen (`run_of_calm`). `echoed_run` says of the result and the journal alone how they belong
together; the timestamps count modulo 2^64, so a round trip is measured across a turn of the counter
as well.
-/

namespace OpticalTiming

open Procedure

/-! ### Round trips -/

/-- The ticks from one counter value to another, modulo 2^64. -/
def TimestampWord.ticksTo (transmit receive : TimestampWord) : Nat :=
  (receive.value.toNat + UInt64.size - transmit.value.toNat) % UInt64.size

namespace RoundTrip

variable {transmit receive : TimestampWord}

theorem toNat_sub_eq_ticksTo (transmit receive : TimestampWord) :
    (receive.value - transmit.value).toNat = transmit.ticksTo receive := by
  have htransmit := transmit.value.toNat_lt
  rw [UInt64.toNat_sub, TimestampWord.ticksTo, UInt64.size]
  omega

theorem between_of_lt (h : transmit.ticksTo receive < UInt32.size) :
    between transmit receive = .ok ⟨UInt32.ofNat (transmit.ticksTo receive)⟩ := by
  rw [← toNat_sub_eq_ticksTo] at h ⊢
  exact if_pos h

theorem exists_between_of_le (h : UInt32.size ≤ transmit.ticksTo receive) :
    ∃ text, between transmit receive = .error (.protocol text) := by
  rw [← toNat_sub_eq_ticksTo] at h
  exact ⟨_, if_neg (Nat.not_lt.mpr h)⟩

/-- A receive timestamp that lies some ticks behind the transmit timestamp, around the counter if
need be. -/
theorem ticksTo_of_add {ticks : Nat} (hticks : ticks < UInt32.size)
    (h : receive.value.toNat = (transmit.value.toNat + ticks) % UInt64.size) :
    transmit.ticksTo receive = ticks := by
  have htransmit := transmit.value.toNat_lt
  rw [TimestampWord.ticksTo, h]
  simp only [UInt32.size, UInt64.size] at hticks ⊢
  omega

end RoundTrip

/-! ### The timestamps of an echo -/

/-- The four halves of the timestamps of an echo. -/
structure EchoStamps where
  transmitHigh : UInt32
  transmitLow : UInt32
  receiveHigh : UInt32
  receiveLow : UInt32

namespace EchoStamps

def transmit (stamps : EchoStamps) : TimestampWord :=
  .ofHalves stamps.transmitHigh stamps.transmitLow

def receive (stamps : EchoStamps) : TimestampWord :=
  .ofHalves stamps.receiveHigh stamps.receiveLow

/-- The ticks from the transmit to the receive timestamp, modulo 2^64. -/
def ticks (stamps : EchoStamps) : Nat := stamps.transmit.ticksTo stamps.receive

end EchoStamps

namespace EchoMonitor

/-- The reads of the four halves, as they stand in the journal. -/
def stampReads (monitor : EchoMonitor) (number time : Nat) (stamps : EchoStamps) : List Access :=
  [.fetched number time (monitor.block.path "csr.tx_h", stamps.transmitHigh),
    .fetched number time (monitor.block.path "csr.tx_l", stamps.transmitLow),
    .fetched number time (monitor.block.path "csr.rx_h", stamps.receiveHigh),
    .fetched number time (monitor.block.path "csr.rx_l", stamps.receiveLow)]

theorem checkDone_eq (monitor : EchoMonitor) :
    monitor.checkDone = monitor.block.check "csr.stat.rx_done" isDone := rfl

/-- The done bit is the lowest bit of the status; the others do not count. -/
theorem isDone_eq_testBit (status : UInt32) : isDone status = status.toNat.testBit 0 := by
  have hbit : (status &&& 1).toNat = status.toNat % 2 := by
    rw [UInt32.toNat_and]
    exact Nat.and_one_is_mod _
  rw [isDone, Nat.testBit_zero, decide_eq_decide, ← hbit, ne_eq, ← UInt32.toNat_inj, hbit]
  exact Nat.mod_two_ne_zero

/-- On a bench on which nothing is arranged to go wrong the round trip is the difference of the
timestamps that are read. -/
theorem run_readRoundTrip_of_healthy (monitor : EchoMonitor) {bench : Bench} (h : bench.Healthy) :
    ∃ stamps after, monitor.readRoundTrip.run bench =
        (RoundTrip.between stamps.transmit stamps.receive, after) ∧
      monitor.readRoundTrip.commits bench =
        monitor.stampReads (bench.bus.dispatches + 1) bench.clock stamps := by
  obtain ⟨values, after, hrun, -, hlength, hcommits⟩ :=
    run_snapshot_of_healthy monitor.block stampLeaves h
  obtain ⟨transmitHigh, transmitLow, receiveHigh, receiveLow, rfl⟩ :
      ∃ first second third fourth, values = [first, second, third, fourth] := by
    match values, hlength with
    | [first, second, third, fourth], _ => exact ⟨first, second, third, fourth, rfl⟩
  refine ⟨⟨transmitHigh, transmitLow, receiveHigh, receiveLow⟩, after, ?_, ?_⟩
  · refine (run_bind_of_ok hrun _).trans ?_
    have hok : ∀ (value : UInt32) (next : UInt32 → Except Error RoundTrip),
        (Except.ok value >>= next) = next value := fun _ _ => rfl
    rw [run_ofExcept]
    simp [Snapshot.get, stampLeaves, RegisterFile.storeAll, hok, EchoStamps.transmit,
      EchoStamps.receive]
  · refine (commits_bind_of_ok hrun _).trans ?_
    rw [commits_ofExcept, List.append_nil, hcommits]
    rfl

/-- The result of a look at the timestamps, or of giving the echo up. -/
def resultOfStamps (options : EchoOptions) : Option EchoStamps → Except Error RoundTrip
  | some stamps => RoundTrip.between stamps.transmit stamps.receive
  | none => .error (.echoTimeout options.timeout)

/-- What is committed after the strobe: the looks at the done bit and, if there are timestamps,
their reads. -/
def collected (monitor : EchoMonitor) (options : EchoOptions) (number time : Nat)
    (values : List UInt32) (stamps? : Option EchoStamps) : List Access :=
  let step := waitLength options.pollInterval.toNat
  Access.looks monitor.donePath step number time values ++
    stamps?.elim []
      (monitor.stampReads (number + values.length + 1) (time + values.length * step))

/-- How often the done bit is looked at before an echo is given up. -/
def lookLimit (options : EchoOptions) : Nat :=
  pollLimit options.pollInterval.toNat options.timeout.toNat

/-- On a calm bench the done bit is looked at until it is seen or the timeout has passed, and the
timestamps are read if it was seen. -/
theorem run_collectEcho_of_calm (monitor : EchoMonitor) {options : EchoOptions}
    (hinterval : 0 < options.pollInterval.toNat) {bench : Bench} (h : bench.Calm) :
    ∃ values stamps? after,
      (monitor.collectEcho options).run bench = (resultOfStamps options stamps?, after) ∧
      Looked isDone (lookLimit options) values stamps?.isSome ∧
      (monitor.collectEcho options).commits bench =
        monitor.collected options bench.bus.dispatches bench.clock values stamps? := by
  obtain ⟨values, outcome, polled, hrun, hpolled⟩ :=
    run_pollUntil_check monitor.block "csr.stat.rx_done" isDone options.timeout.toNat hinterval h
  rw [← checkDone_eq] at hrun hpolled
  have hwait : (monitor.awaitEcho options).run bench = (.ok outcome, polled) := hrun
  have hlooks : (monitor.awaitEcho options).commits bench = _ := hpolled.accesses_eq
  have hlooked := hpolled.looked
  cases hfound : outcome.satisfied with
  | true =>
    obtain ⟨stamps, after, hread, hreads⟩ :=
      monitor.run_readRoundTrip_of_healthy hpolled.calm.healthy
    rw [hfound] at hlooked
    refine ⟨values, some stamps, after, ?_, hlooked, ?_⟩
    · rw [collectEcho, run_bind_of_ok hwait, if_pos hfound, hread]
      rfl
    · rw [collectEcho, commits_bind_of_ok hwait, if_pos hfound, hlooks, hreads, hpolled.dispatches,
        hpolled.clock]
      rfl
  | false =>
    have hnot : ¬ outcome.satisfied = true := by
      rw [hfound]
      exact Bool.false_ne_true
    rw [hfound] at hlooked
    refine ⟨values, none, polled, ?_, hlooked, ?_⟩
    · rw [collectEcho, run_bind_of_ok hwait, if_neg hnot]
      rfl
    · rw [collectEcho, commits_bind_of_ok hwait, if_neg hnot, hlooks, throw_eq, commits_fail]
      rfl

end EchoMonitor

namespace EchoTrip

variable {trip : EchoTrip} {bench : Bench}

/-- What is known of an echo with the given looks and timestamps. -/
structure Echoed (trip : EchoTrip) (bench : Bench) (result : Except Error RoundTrip)
    (accesses : List Access) (values : List UInt32) (stamps? : Option EchoStamps) : Prop where
  /-- A dispatch with the strobe alone, one for each look and one for the timestamps. -/
  accesses_eq : accesses = trip.strobe bench ::
    trip.monitor.collected trip.options (bench.bus.dispatches + 1) bench.clock values stamps?
  /-- The done bit is looked at until it is seen or the limit is reached. -/
  looks : values.length = match values.findIdx? EchoMonitor.isDone with
    | some index => index + 1
    | none => EchoMonitor.lookLimit trip.options
  /-- The timestamps are read if the done bit was seen. -/
  seen : stamps?.isSome = true ↔ ∃ value ∈ values, EchoMonitor.isDone value = true
  timedOut : stamps? = none → result = .error (.echoTimeout trip.options.timeout)
  measured : ∀ stamps, stamps? = some stamps → stamps.ticks < UInt32.size →
    result = .ok ⟨UInt32.ofNat stamps.ticks⟩
  implausible : ∀ stamps, stamps? = some stamps → UInt32.size ≤ stamps.ticks →
    ∃ text, result = .error (.protocol text)
  /-- A receive timestamp that lies some ticks behind the transmit timestamp, around the counter if
  need be, gives these ticks. -/
  exact : ∀ stamps, stamps? = some stamps → ∀ ticks < UInt32.size,
    stamps.receive.value.toNat = (stamps.transmit.value.toNat + ticks) % UInt64.size →
      result = .ok ⟨UInt32.ofNat ticks⟩

theorem echoed_of_looked {accesses : List Access} {values : List UInt32}
    {stamps? : Option EchoStamps}
    (haccesses : accesses = trip.strobe bench ::
      trip.monitor.collected trip.options (bench.bus.dispatches + 1) bench.clock values stamps?)
    (hlooked : Looked EchoMonitor.isDone (EchoMonitor.lookLimit trip.options) values
      stamps?.isSome) :
    trip.Echoed bench (EchoMonitor.resultOfStamps trip.options stamps?) accesses values stamps? := by
  have hmeasured : ∀ stamps, stamps? = some stamps → stamps.ticks < UInt32.size →
      EchoMonitor.resultOfStamps trip.options stamps? = .ok ⟨UInt32.ofNat stamps.ticks⟩ := by
    rintro stamps rfl hlt
    exact RoundTrip.between_of_lt hlt
  refine ⟨haccesses, hlooked.length_eq, hlooked.found_iff_exists, ?_, hmeasured, ?_, ?_⟩
  · rintro rfl
    rfl
  · rintro stamps rfl hle
    exact RoundTrip.exists_between_of_le hle
  · intro stamps hstamps ticks hticks hreceive
    have hdifference : stamps.ticks = ticks := RoundTrip.ticksTo_of_add hticks hreceive
    rw [← hdifference] at hticks ⊢
    exact hmeasured stamps hstamps hticks

/-- On a calm bench an idle trip sends its strobe, looks at the done bit until it is seen or the
timeout has passed, and measures the difference of the timestamps if it was seen. -/
theorem echoed_run (hstate : trip.state = .idle) (hinterval : 0 < trip.options.pollInterval.toNat)
    (h : bench.Calm) :
    ∃ result after stop values stamps?, trip.run.run bench = (.ok (result, after), stop) ∧
      trip.Echoed bench result (trip.run.commits bench) values stamps? := by
  obtain ⟨sent, hsend, hdispatched, hstrobe⟩ :=
    run_send_of_healthy [(trip.monitor.strobePath, 1)] h.healthy.fault
  have hcalm : sent.Calm := h.of_dispatched hdispatched
  obtain ⟨result, after, stop, hawait, -⟩ :=
    exists_awaitDone { trip with state := .requested } hdispatched.queue
  obtain ⟨values, stamps?, collected, hcollected, hlooked, hreads⟩ :=
    trip.monitor.run_collectEcho_of_calm hinterval hcalm
  -- The trip reports what its monitor collects.
  obtain ⟨hcollect, hcommits⟩ := run_collectEcho hawait
  cases hcollect.symm.trans hcollected
  have hattempt := run_attempt_of_run hsend
  have hrun : trip.run.run bench =
      (.ok (EchoMonitor.resultOfStamps trip.options stamps?, after), stop) := by
    rw [run_of_idle hstate, run_bind_of_ok hattempt]
    exact hawait
  refine ⟨_, after, stop, values, stamps?, hrun, echoed_of_looked ?_ hlooked⟩
  have hawaited : (awaitDone { trip with state := .requested }).commits sent =
      trip.monitor.collected trip.options (bench.bus.dispatches + 1) bench.clock values stamps? := by
    rw [← hcommits, ← hdispatched.dispatches, ← hdispatched.clock]
    exact hreads
  rw [run_of_idle hstate, commits_bind_of_ok hattempt, commits_attempt, hstrobe,
    Bus.flushed_of_queue_nil h.healthy.queue, List.nil_append, ← hawaited]
  rfl

/-- A trip of the reference system. -/
def referenceTrip : EchoTrip where
  monitor := Design.reference.master.echo
  options := {}

/-- The echo of the reference system, whose device answers after 61 ticks. -/
theorem echoed_reference :
    (referenceTrip.runOn (Design.answering 0)).1 = .ok ⟨61⟩ ∧
      ∃ result after stop values stamps?,
        referenceTrip.run.run (Design.answering 0) = (.ok (result, after), stop) ∧
        referenceTrip.Echoed (Design.answering 0) result
          (referenceTrip.run.commits (Design.answering 0)) values stamps? := by
  have hcalm : (Design.answering 0).Calm := ⟨⟨rfl, rfl, rfl⟩, rfl, rfl, Or.inl rfl⟩
  exact ⟨rfl, echoed_run rfl (by decide) hcalm⟩

/-- The number of looks at a done bit that is never set is not the timeout over the interval,
rounded up: an interval beyond the longest wait is over before the timeout, and there is time for a
second look. -/
theorem done_looks_beyond_longestWait :
    ¬ ∀ (trip : EchoTrip) (bench : Bench), trip.state = .idle →
      0 < trip.options.pollInterval.toNat → bench.Calm →
      let values :=
        (Access.readsOf trip.monitor.donePath (trip.run.commits bench)).map Access.value
      values.length = match values.findIdx? EchoMonitor.isDone with
        | some index => index + 1
        | none => max 1 ((trip.options.timeout.toNat + trip.options.pollInterval.toNat - 1) /
            trip.options.pollInterval.toNat) := by
  intro h
  have hcalm : Bench.Calm { Design.answering 0 with bus := {} } :=
    ⟨⟨rfl, rfl, rfl⟩, rfl, rfl, Or.inl rfl⟩
  have hlooks := h
    { referenceTrip with options := { timeout := 946080000001, pollInterval := 946080000001 } }
    { Design.answering 0 with bus := {} } rfl (by decide) hcalm
  revert hlooks
  decide +kernel

end EchoTrip

end OpticalTiming
