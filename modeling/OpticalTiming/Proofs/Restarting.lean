import OpticalTiming.Proofs.Foretelling
import OpticalTiming.Proofs.Scanning

/-!
# Restarts of the receiver, access by access

On a calm bench nothing about a restart is left open. The receiver is switched off in one dispatch
and on in the next one, and then its status is read at fixed times, each read in a dispatch of its
own, until a lock is seen or the reads are used up (`looks_eq_mapIdx`, `Looked.length_le`).

What these reads find is settled once the receiver is on again (`values_eq_upcoming`), since nothing
is written from then on. So a lock that was there before and that the device gave up when it was
switched off is not taken for a new one. `restarts_enable` puts this together.
-/

namespace OpticalTiming

open Procedure

/-! ### Reads one step apart -/

/-- The reads of a poll in a row, each with its own number and its own time. -/
theorem Access.looks_eq_mapIdx (path : String) (step number time : Nat) (values : List UInt32) :
    looks path step number time values = values.mapIdx fun index value =>
      fetched (number + (index + 1)) (time + (index + 1) * step) (path, value) := by
  induction values generalizing number time with
  | nil => rfl
  | cons value rest ih =>
    rw [looks, ih, List.mapIdx_cons, Nat.zero_add, Nat.one_mul]
    congr 1
    refine congrFun (congrArg List.mapIdx (funext₂ fun index value => ?_)) rest
    have hnumber : number + 1 + (index + 1) = number + (index + 1 + 1) := by omega
    have htime : time + step + (index + 1) * step = time + (index + 1 + 1) * step := by
      rw [Nat.succ_mul (index + 1)]
      omega
    rw [hnumber, htime]

/-- A poll looks no more often than its limit allows. -/
theorem Looked.length_le {accept : UInt32 → Bool} {limit : Nat} {values : List UInt32}
    {found : Bool} (h : Looked accept limit values found) : values.length ≤ limit := by
  cases h with
  | found refused value hrefused haccepted hlength =>
    rw [List.length_append]
    exact hlength
  | gaveUp _ hrefused hlength => exact Nat.le_of_eq hlength

/-- The values that a poll on a calm bench reads are upcoming there. -/
theorem Polled.values_eq_upcoming {α : Type} {p : Procedure α} {path : String}
    {accept : UInt32 → Bool} {interval limit : Nat} {bench after : Bench} {values : List UInt32}
    {found : Bool}
    (h : Polled path accept interval limit bench after (p.commits bench) values found) :
    values = (List.range values.length).map (bench.bus.upcoming path) := by
  have hreads : Access.readsOf path (p.commits bench) = p.commits bench := by
    rw [h.accesses_eq, Access.readsOf_looks]
  have hforetold : bench.bus.Foretold (p.run bench).2.bus (p.commits bench) := by
    refine foretold_run fun a ha => ?_
    have hread := List.filter_eq_self.mp hreads a ha
    exact (of_decide_eq_true hread).1
  have hvalues : (p.commits bench).map Access.value = values := by
    rw [h.accesses_eq, Access.map_value_looks]
  have hlength : (p.commits bench).length = values.length := by
    rw [← hvalues, List.length_map]
  calc values
      = (Access.readsOf path (p.commits bench)).map Access.value := by rw [hreads, hvalues]
    _ = (List.range values.length).map (bench.bus.upcoming path) := by
      rw [hforetold.map_value, hreads, hlength]

namespace UpstreamReceiver

variable {receiver : UpstreamReceiver} {bench : Bench}

/-! ### The status -/

/-- Only the lowest four bits of the status count. -/
theorem isReady_eq (status : UInt32) : isReady status = decide (status.toNat % 16 = 8) := by
  have hmask : (status &&& 0xF).toNat = status.toNat % 16 := by
    rw [UInt32.toNat_and]
    exact Nat.and_two_pow_sub_one_eq_mod status.toNat 4
  unfold isReady readyState
  rw [decide_eq_decide, ← UInt32.toNat_inj, hmask]
  exact Iff.rfl

/-- The values that a poll of the status reads on a bench are upcoming there. -/
theorem values_eq_upcoming {interval limit : Nat} {after : Bench} {values : List UInt32}
    {found : Bool}
    (h : Polled receiver.statusPath isReady interval limit bench after
      (receiver.awaitLock.commits bench) values found) :
    values = (List.range values.length).map (bench.bus.upcoming receiver.statusPath) :=
  h.values_eq_upcoming

/-- A lock that is seen was scripted, or is there on the bench with which the poll begins. -/
theorem exists_ready_of_upcoming {value : UInt32} {index : Nat}
    (hvalue : bench.bus.upcoming receiver.statusPath index = value) :
    value ∈ bench.bus.script receiver.statusPath ∨
      value = RegisterFile.read bench.bus.registers receiver.statusPath := by
  unfold Bus.upcoming at hvalue
  cases hscripted : (bench.bus.script receiver.statusPath)[index]? with
  | none =>
    rw [hscripted] at hvalue
    exact Or.inr hvalue.symm
  | some scripted =>
    rw [hscripted] at hvalue
    obtain rfl : scripted = value := hvalue
    exact Or.inl (List.mem_of_getElem? hscripted)

/-! ### The whole restart -/

/-- A restart that reads the given values of the status, one step apart and no more often than the
limit, and that sees a lock or not. -/
structure Restarts (receiver : UpstreamReceiver) (step limit : Nat) (bench : Bench)
    (values : List UInt32) (found : Bool) : Prop where
  /-- The receiver is switched off and on, and then its status is read, each time in a dispatch of
  its own. -/
  accesses : receiver.enable.commits bench =
    .written (bench.bus.dispatches + 1) bench.clock (receiver.enablePath, 0) ::
      .written (bench.bus.dispatches + 2) bench.clock (receiver.enablePath, 1) ::
        values.mapIdx fun index value =>
          .fetched (bench.bus.dispatches + 2 + (index + 1)) (bench.clock + (index + 1) * step)
            (receiver.statusPath, value)
  /-- The first value that tells of a lock is the last one that is read. -/
  length : values.length = match values.findIdx? fun value => value.toNat % 16 = 8 with
    | some index => index + 1
    | none => limit
  length_le : values.length ≤ limit
  found_iff : found = true ↔ ∃ value, values.getLast? = some value ∧ value.toNat % 16 = 8
  /-- The values are those that are upcoming once the receiver is on again. -/
  upcoming : values = (List.range values.length).map
    ((receiver.relaunched bench).bus.upcoming receiver.statusPath)
  /-- What the status told before does not count: a lock is neither scripted nor there once the
  receiver is on again, and none is seen. -/
  stale : (∀ value ∈ (receiver.relaunched bench).bus.script receiver.statusPath,
      value.toNat % 16 ≠ 8) →
    (RegisterFile.read (receiver.relaunched bench).bus.registers
      receiver.statusPath).toNat % 16 ≠ 8 →
    found = false

/-- On a calm bench a restart of the receiver is settled in every access, whatever the device
does. Steps longer than the longest wait are cut off there. -/
theorem restarts_enable (receiver : UpstreamReceiver)
    (hinterval : 0 < receiver.options.pollInterval.toNat) (h : bench.Calm) :
    let step := min receiver.options.pollInterval.toNat longestWait
    let limit := max 1 ((receiver.options.timeout.toNat + step - 1) / step)
    ∃ values found after, receiver.enable.run bench = (.ok found, after) ∧
      receiver.Restarts step limit bench values found ∧
      after.Calm ∧ after.clock = bench.clock + values.length * step := by
  intro step limit
  obtain ⟨values, outcome, after, -, hpolled, hrun, hcommits⟩ :=
    receiver.run_enable_polled hinterval h
  obtain ⟨-, -, hclock, -, -⟩ := receiver.run_relaunch_of_calm h
  have hlooked := hpolled.looked
  rw [funext isReady_eq] at hlooked
  have hfound : outcome.satisfied = true ↔
      ∃ value, values.getLast? = some value ∧ value.toNat % 16 = 8 := by
    simpa only [decide_eq_true_eq] using hlooked.found_iff
  have hupcoming := values_eq_upcoming hpolled
  refine ⟨values, outcome.satisfied, after, hrun,
    ⟨?_, hlooked.length_eq, hlooked.length_le, hfound, hupcoming, ?_⟩, hpolled.calm, ?_⟩
  · rw [hcommits, restart, Access.looks_eq_mapIdx]
    rfl
  · intro hscript hcontent
    refine Bool.eq_false_iff.mpr fun hsatisfied => ?_
    obtain ⟨value, hlast, hready⟩ := hfound.mp hsatisfied
    have hmem : value ∈ values := List.mem_of_getLast? hlast
    rw [hupcoming] at hmem
    obtain ⟨index, -, hvalue⟩ := List.mem_map.mp hmem
    rcases exists_ready_of_upcoming hvalue with hscripted | rfl
    · exact hscript value hscripted hready
    · exact hcontent hready
  · rw [hpolled.clock, hclock]
    rfl

/-- A receiver of the reference system that has locked, on a device that gives the lock up when the
receiver is switched off. -/
def lockLosing : Bench where
  bus :=
    Bus.setRegister {} "master.upstream.csr.stat.ep_stat" readyState
      |>.onWrite "master.upstream.csr.ctrl.ep_en"
        (Reaction.hook
          { triggers := some [0]
            stores := [("master.upstream.csr.stat.ep_stat", 0)]
            adds := []
            copyTo := none
            otherwise := []
            uses := none })
  wallClock := (Design.answering 0).wallClock

/-- The receiver is looked at five times, and no lock is found. -/
theorem restarts_lockLosing :
    0 < MuxScanner.referenceReceiver.options.pollInterval.toNat ∧ lockLosing.Calm ∧
      (MuxScanner.referenceReceiver.checkReady.run lockLosing).1 = .ok true ∧
      (MuxScanner.referenceReceiver.enable.run lockLosing).1 = .ok false ∧
      ∃ values found after,
        MuxScanner.referenceReceiver.enable.run lockLosing = (.ok found, after) ∧
        MuxScanner.referenceReceiver.Restarts 100 5 lockLosing values found ∧
        after.Calm ∧ after.clock = lockLosing.clock + values.length * 100 := by
  have hcalm : lockLosing.Calm := ⟨⟨rfl, rfl, rfl⟩, rfl, rfl, Or.inl rfl⟩
  have hinterval : 0 < MuxScanner.referenceReceiver.options.pollInterval.toNat := by decide
  exact ⟨hinterval, hcalm, by decide +kernel, by decide +kernel,
    restarts_enable MuxScanner.referenceReceiver hinterval hcalm⟩

/-- The number of reads is not the timeout over the interval, rounded up: an interval beyond the
longest wait is over before the timeout, and the status is read a second time. -/
theorem restart_beyond_longestWait :
    ¬ ∀ (receiver : UpstreamReceiver) (bench : Bench),
      0 < receiver.options.pollInterval.toNat → bench.Calm →
      let interval := receiver.options.pollInterval.toNat
      let reads := Access.readsOf receiver.statusPath (receiver.enable.commits bench)
      reads.length = match reads.findIdx? fun a => a.value.toNat % 16 = 8 with
        | some index => index + 1
        | none => max 1 ((receiver.options.timeout.toNat + interval - 1) / interval) := by
  intro h
  have hreads := h MuxScanner.slowReceiver { lockLosing with bus := {} } (by decide)
    ⟨⟨rfl, rfl, rfl⟩, rfl, rfl, Or.inl rfl⟩
  revert hreads
  decide +kernel

end UpstreamReceiver

end OpticalTiming
