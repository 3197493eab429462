import OpticalTiming.Proofs.Polling
import OpticalTiming.Proofs.Routing
import OpticalTiming.Proofs.Validating

/-!
# How late a poll can succeed

A poll compares the time with its timeout only after a look that was refused, so a look that comes
after the timeout can still succeed. The last one comes at `pollDeadline`: the first multiple of the
interval that is no earlier than the timeout. It is less than an interval late, and it is in time
exactly if the interval divides the timeout (`pollDeadline_eq_iff`).

`deadlines_of_check` says so of the two polls of a configured master, the wait for the done bit of
an echo and the wait for the lock of the receiver, on any bench and whatever fails on the way.
-/

namespace OpticalTiming

open Procedure

/-! ### The last look -/

/-- The time of the last look of a poll, counted from its start. -/
def pollDeadline (interval timeout : Nat) : Nat :=
  pollLimit interval timeout * waitLength interval

section

variable {interval timeout : Nat}

theorem exists_pollLimit_eq (interval timeout : Nat) : ∃ n, pollLimit interval timeout = n + 1 :=
  Nat.exists_eq_add_one.mpr (Nat.le_max_left 1 _)

/-- The last look does not come before the timeout. -/
theorem le_pollDeadline (timeout : Nat) (hinterval : 0 < interval) :
    timeout ≤ pollDeadline interval timeout := by
  obtain ⟨n, hn⟩ := exists_pollLimit_eq interval timeout
  rw [pollDeadline, hn]
  exact (pollLimit_le_iff hinterval).mp (Nat.le_of_eq hn)

/-- The look before the last one comes before the timeout. -/
theorem pollDeadline_lt (hinterval : 0 < interval) (htimeout : 0 < timeout) :
    pollDeadline interval timeout < timeout + waitLength interval := by
  obtain ⟨n, hn⟩ := exists_pollLimit_eq interval timeout
  rw [pollDeadline, hn, Nat.succ_mul]
  refine Nat.add_lt_add_right ?_ _
  cases n with
  | zero =>
    rw [Nat.zero_mul]
    exact htimeout
  | succ n =>
    refine Nat.lt_of_not_le fun hle => ?_
    have hlimit : pollLimit interval timeout ≤ n + 1 := (pollLimit_le_iff hinterval).mpr hle
    omega

/-- The last look is at most an interval late, whatever the timeout. -/
theorem pollDeadline_le (hinterval : 0 < interval) (timeout : Nat) :
    pollDeadline interval timeout ≤ timeout + interval := by
  have hwait := waitLength_le interval
  rcases Nat.eq_zero_or_pos timeout with rfl | htimeout
  · have hone : pollLimit interval 0 ≤ 0 + 1 := (pollLimit_le_iff hinterval).mpr (Nat.zero_le _)
    have hlast := Nat.mul_le_mul_right (waitLength interval) hone
    unfold pollDeadline
    omega
  · have hlast := pollDeadline_lt hinterval htimeout
    omega

/-- The last look comes in time exactly if the interval divides the timeout. -/
theorem pollDeadline_eq_iff (hinterval : 0 < interval) (htimeout : 0 < timeout) :
    pollDeadline interval timeout = timeout ↔ waitLength interval ∣ timeout := by
  constructor
  · intro heq
    rw [← heq]
    exact Nat.dvd_mul_left _ _
  · rintro ⟨n, hn⟩
    have hpos : 0 < n := Nat.pos_of_ne_zero fun hzero => by
      rw [hzero, Nat.mul_zero] at hn
      omega
    obtain ⟨m, rfl⟩ := Nat.exists_eq_add_one.mpr hpos
    have hmultiple : timeout = (m + 1) * waitLength interval := by rw [hn, Nat.mul_comm]
    have hlimit : pollLimit interval timeout ≤ m + 1 :=
      (pollLimit_le_iff hinterval).mpr (Nat.le_of_eq hmultiple)
    refine Nat.le_antisymm ?_ (le_pollDeadline timeout hinterval)
    calc pollLimit interval timeout * waitLength interval
        ≤ (m + 1) * waitLength interval := Nat.mul_le_mul_right _ hlimit
      _ = timeout := hmultiple.symm

end

/-! ### When polls end -/

section

variable {block : RegisterBlock} {leaf : String} {accept : UInt32 → Bool} {interval timeout : Nat}
  {bench after : Bench} {outcome : PollOutcome}

theorem clock_le_of_pollRounds (hinterval : 0 < interval) {check : Procedure Bool}
    (hinstant : check.Instant) {start rounds k : Nat} {attempts : UInt32}
    (hclock : bench.clock = start + k * waitLength interval) (hk : k < pollLimit interval timeout)
    (hrun : (pollRounds interval timeout start check rounds attempts).run bench =
      (.ok outcome, after)) :
    after.clock ≤ start + pollDeadline interval timeout := by
  -- The clock counts the looks, and a look beyond the limit is not begun.
  have hbound : ∀ n, n ≤ pollLimit interval timeout →
      start + n * waitLength interval ≤ start + pollDeadline interval timeout :=
    fun n hn => Nat.add_le_add_left (Nat.mul_le_mul_right _ hn) start
  induction rounds generalizing k attempts bench with
  | zero =>
    cases hrun
    rw [hclock]
    exact hbound k (Nat.le_of_lt hk)
  | succ rounds ih =>
    have hlater : bench.clock + waitLength interval = start + (k + 1) * waitLength interval := by
      rw [hclock, Nat.succ_mul, Nat.add_assoc]
    cases pollRound interval timeout start check attempts bench with
    | refused e stopped wait run commits =>
      rw [run] at hrun
      cases hrun
    | ended waited checked result wait look time run commits =>
      rw [run] at hrun
      cases result with
      | error e => cases hrun
      | ok holds =>
        cases hrun
        rw [clock_of_round hinstant wait look, hlater]
        exact hbound (k + 1) hk
    | next waited checked wait look time run commits =>
      have hchecked := (clock_of_round hinstant wait look).trans hlater
      have hmore := lt_pollLimit_of_not_le hinterval hchecked time
      rw [run] at hrun
      exact ih hchecked hmore hrun

/-- A poll that is satisfied ends with a look that was accepted, no later than its last look. -/
theorem exists_look_of_satisfied (hinterval : 0 < interval) (hidle : bench.Idle)
    (hrun : (pollUntil interval timeout (block.check leaf accept)).run bench = (.ok outcome, after))
    (hsatisfied : outcome.satisfied = true) :
    ∃ earlier look, (pollUntil interval timeout (block.check leaf accept)).commits bench =
        earlier ++ [look] ∧
      look.IsReadOf (block.path leaf) ∧ accept look.value = true ∧
      look.time ≤ bench.clock + pollDeadline interval timeout := by
  obtain ⟨last, earlier, hlast, hheld, hsplit⟩ := exists_check_of_satisfied
    (stable_idle.wait interval) (stable_idle.keeps_check block leaf accept) hidle hrun hsatisfied
  obtain ⟨look, hlook, hread, haccept⟩ := exists_read_of_check_true hlast hheld
  rw [hlook] at hsplit
  have hmem : look ∈ (pollUntil interval timeout (block.check leaf accept)).commits bench := by
    rw [hsplit]
    exact List.mem_append_right _ (List.mem_singleton_self look)
  have htime := (mem_commits hmem).2.2
  rw [hrun] at htime
  have hstart : bench.clock = bench.clock + 0 * waitLength interval := by
    rw [Nat.zero_mul, Nat.add_zero]
  have hend := clock_le_of_pollRounds hinterval (instant_check block leaf accept) hstart
    (Nat.le_max_left 1 _) hrun
  exact ⟨earlier, look, hsplit, hread, haccept, Nat.le_trans htime hend⟩

end

/-! ### The polls of a master -/

/-- Whether a register is read with an accepted value behind a write of one to another register, and
at most `ms` milliseconds later. -/
def Access.SeenWithin (trigger status : String) (accept : UInt32 → Bool) (ms : Nat)
    (accesses : List Access) : Prop :=
  ∃ before write between look after, accesses = before ++ write :: (between ++ look :: after) ∧
    (write.IsWriteTo trigger ∧ write.value = 1) ∧
    (look.IsReadOf status ∧ accept look.value = true) ∧ look.time ≤ write.time + ms

/-- What was seen in time was seen, wherever in the list. -/
theorem Access.SeenWithin.exists_mem {trigger status : String} {accept : UInt32 → Bool} {ms : Nat}
    {accesses : List Access} (h : SeenWithin trigger status accept ms accesses) :
    ∃ write ∈ accesses, ∃ look ∈ accesses, write.IsWriteTo trigger ∧ look.IsReadOf status ∧
      accept look.value = true ∧ look.time ≤ write.time + ms := by
  obtain ⟨before, write, between, look, after, rfl, hwrite, hlook, htime⟩ := h
  have hrest : write ∈ write :: (between ++ look :: after) := List.mem_cons_self
  have hlate : look ∈ write :: (between ++ look :: after) :=
    List.mem_cons_of_mem _ (List.mem_append_right _ List.mem_cons_self)
  exact ⟨write, List.mem_append_right _ hrest, look, List.mem_append_right _ hlate, hwrite.1,
    hlook.1, hlook.2, htime⟩

/-- An echo that is measured was seen to come back no later than the last look. -/
theorem EchoMonitor.seenWithin_of_measure_ok (monitor : EchoMonitor) {options : EchoOptions}
    (hinterval : 0 < options.pollInterval.toNat) {bench after : Bench} {roundTrip : RoundTrip}
    (hrun : (monitor.measure options).run bench = (.ok roundTrip, after)) :
    Access.SeenWithin monitor.strobePath monitor.donePath isDone
      (pollDeadline options.pollInterval.toNat options.timeout.toNat)
      ((monitor.measure options).commits bench) := by
  rw [measure_eq] at hrun ⊢
  obtain ⟨_, sent, hsend, hcollect, hcommits⟩ := exists_of_run_bind_ok hrun
  obtain ⟨outcome, polled, hpoll, hread, hcommits'⟩ := exists_of_run_bind_ok hcollect
  obtain ⟨hdispatched, hstrobe⟩ := dispatched_of_send_ok hsend
  have hsatisfied : outcome.satisfied = true := by
    cases hfound : outcome.satisfied with
    | true => rfl
    | false =>
      rw [hfound, if_neg Bool.false_ne_true] at hread
      cases hread
  obtain ⟨earlier, look, hlooks, hlook, haccept, htime⟩ :=
    exists_look_of_satisfied hinterval hdispatched.queue hpoll hsatisfied
  have hlooks : (monitor.awaitEcho options).commits sent = earlier ++ [look] := hlooks
  rw [hdispatched.clock] at htime
  refine ⟨bench.bus.flushed bench.clock,
    .written (bench.bus.dispatches + 1) bench.clock (monitor.strobePath, 1), earlier, look,
    monitor.readRoundTrip.commits polled, ?_, ⟨⟨rfl, rfl⟩, rfl⟩, ⟨hlook, haccept⟩, htime⟩
  have hcollected : (monitor.collectEcho options).commits sent =
      earlier ++ look :: monitor.readRoundTrip.commits polled := by
    refine hcommits'.trans ?_
    rw [hlooks, if_pos hsatisfied, List.append_assoc]
    rfl
  rw [hcommits, hstrobe, hcollected, List.append_assoc]
  rfl

/-- A receiver that is reported locked was seen ready no later than the last look. -/
theorem UpstreamReceiver.seenWithin_of_enable_ok (receiver : UpstreamReceiver)
    (hinterval : 0 < receiver.options.pollInterval.toNat) {bench after : Bench}
    (hrun : receiver.enable.run bench = (.ok true, after)) :
    Access.SeenWithin receiver.enablePath receiver.statusPath isReady
      (pollDeadline receiver.options.pollInterval.toNat receiver.options.timeout.toNat)
      (receiver.enable.commits bench) := by
  rw [enable_eq] at hrun ⊢
  obtain ⟨_, off, hoff, hrest, hcommits⟩ := exists_of_run_bind_ok hrun
  obtain ⟨_, on, hon, hpoll, hcommits'⟩ := exists_of_run_bind_ok hrest
  obtain ⟨outcome, polled, hpolled, hdone, hcommits''⟩ := exists_of_run_bind_ok hpoll
  obtain ⟨hoffDispatched, hoffWritten⟩ := dispatched_of_send_ok hoff
  obtain ⟨honDispatched, honWritten⟩ := dispatched_of_send_ok hon
  have hsatisfied : outcome.satisfied = true := Except.ok.inj (congrArg Prod.fst hdone)
  obtain ⟨earlier, look, hlooks, hlook, haccept, htime⟩ :=
    exists_look_of_satisfied hinterval honDispatched.queue hpolled hsatisfied
  have hlooks : receiver.awaitLock.commits on = earlier ++ [look] := hlooks
  rw [honDispatched.clock] at htime
  refine ⟨bench.bus.flushed bench.clock ++
      [.written (bench.bus.dispatches + 1) bench.clock (receiver.enablePath, 0)],
    .written (off.bus.dispatches + 1) off.clock (receiver.enablePath, 1), earlier, look, [], ?_,
    ⟨⟨rfl, rfl⟩, rfl⟩, ⟨hlook, haccept⟩, htime⟩
  rw [hcommits, hoffWritten, hcommits', honWritten, Bus.flushed_of_queue_nil hoffDispatched.queue,
    hcommits'', hlooks, pure_eq, commits_done, List.append_nil]
  rfl

namespace DesignConfig

/-- Whether on a bench an echo of a configured master is only measured if it was seen to come back
at most `ms` milliseconds after its strobe. -/
def SeesEchoWithin (config : DesignConfig) (ms : Nat) (bench : Bench) : Prop :=
  ∀ withUpstream roundTrip after,
    let master := Master.ofConfig config withUpstream
    (master.echo.measure master.echoOptions).run bench = (.ok roundTrip, after) →
      Access.SeenWithin master.echo.strobePath master.echo.donePath EchoMonitor.isDone ms
        ((master.echo.measure master.echoOptions).commits bench)

/-- Whether on a bench the receiver of a configured master is only reported locked if it was seen
ready at most `ms` milliseconds after it was enabled. -/
def SeesLockWithin (config : DesignConfig) (ms : Nat) (bench : Bench) : Prop :=
  ∀ receiver after, (Master.ofConfig config true).upstream = some receiver →
    receiver.enable.run bench = (.ok true, after) →
      Access.SeenWithin receiver.enablePath receiver.statusPath UpstreamReceiver.isReady ms
        (receiver.enable.commits bench)

/-- A configuration that can be used has an interval and timeouts that are not zero. -/
theorem pos_of_check_ok {config : DesignConfig} (h : config.check = .ok ()) :
    0 < config.pollInterval.toNat ∧ 0 < config.echoTimeout.toNat ∧
      0 < config.lockTimeout.toNat := by
  have hpos : ∀ {ms : UInt64}, ms ≠ 0 → 0 < ms.toNat := by
    intro ms hne
    refine Nat.pos_of_ne_zero fun hzero => hne ?_
    exact UInt64.toNat_inj.mp hzero
  have husable := check_eq_ok_iff.mp h
  exact ⟨hpos husable.pollInterval, hpos husable.echoTimeout, hpos husable.lockTimeout⟩

/-- On any bench, whatever fails or is cancelled, an echo is only measured if it was seen to come
back, and a receiver only reported locked if it was seen ready, no later than the last look of the
poll. That look is less than an interval late, and in time exactly if the interval divides the
timeout. -/
theorem deadlines_of_check {config : DesignConfig} (h : config.check = .ok ()) (bench : Bench) :
    let deadline := fun timeout : UInt64 =>
      pollDeadline config.pollInterval.toNat timeout.toNat
    config.SeesEchoWithin (deadline config.echoTimeout) bench ∧
      config.SeesLockWithin (deadline config.lockTimeout) bench ∧
      ∀ timeout ∈ [config.echoTimeout, config.lockTimeout],
        timeout.toNat ≤ deadline timeout ∧
        deadline timeout < timeout.toNat + waitLength config.pollInterval.toNat ∧
        (deadline timeout = timeout.toNat ↔
          waitLength config.pollInterval.toNat ∣ timeout.toNat) := by
  intro deadline
  obtain ⟨hinterval, hecho, hlock⟩ := pos_of_check_ok h
  refine ⟨?_, ?_, ?_⟩
  · intro withUpstream roundTrip after master hrun
    exact master.echo.seenWithin_of_measure_ok hinterval hrun
  · rintro receiver after ⟨⟩ hrun
    exact UpstreamReceiver.seenWithin_of_enable_ok _ hinterval hrun
  · intro timeout hmem
    have htimeout : 0 < timeout.toNat := by
      rcases List.mem_cons.mp hmem with rfl | hmem
      · exact hecho
      · rwa [List.mem_singleton.mp hmem]
    exact ⟨le_pollDeadline _ hinterval, pollDeadline_lt hinterval htimeout,
      pollDeadline_eq_iff hinterval htimeout⟩

/-- A configuration whose interval does not divide the timeout of an echo. -/
def unevenConfig : DesignConfig := { DesignConfig.standard with echoTimeout := 150 }

/-- Its master. -/
def unevenMaster : Master := .ofConfig unevenConfig false

/-- A device whose done bit is set at the second look. -/
def lateDevice : Bench :=
  { Design.answering 0 with
    bus := (Design.answering 0).bus.scriptReads "master.echo.csr.stat.rx_done" [0, 1] }

/-- With this configuration an echo is seen within 200 ms, two intervals, and a lock within its
timeout. -/
theorem deadlines_unevenConfig :
    unevenConfig.check = .ok () ∧ unevenConfig.SeesEchoWithin 200 lateDevice ∧
      unevenConfig.SeesLockWithin 500 lateDevice := by
  have hcheck : unevenConfig.check = .ok () := by rfl
  obtain ⟨hecho, hlock, -⟩ := deadlines_of_check hcheck lateDevice
  exact ⟨hcheck, hecho, hlock⟩

/-- The timeout itself is no deadline: the echo of the late device is measured although it was only
seen 200 ms after the strobe, with a timeout of 150 ms. -/
theorem echo_seen_late :
    ¬ ∀ (config : DesignConfig) (bench : Bench), config.check = .ok () → bench.Calm →
      config.SeesEchoWithin config.echoTimeout.toNat bench := by
  intro h
  have hcalm : lateDevice.Calm := ⟨⟨rfl, rfl, rfl⟩, rfl, rfl, Or.inl rfl⟩
  have hmeasured : ((unevenMaster.echo.measure unevenMaster.echoOptions).run lateDevice).1 =
      .ok ⟨61⟩ := by rfl
  have hlate := h unevenConfig lateDevice (by rfl) hcalm false ⟨61⟩ _ (Prod.ext hmeasured rfl)
  have hseen := hlate.exists_mem
  revert hseen
  decide +kernel

end DesignConfig

end OpticalTiming
