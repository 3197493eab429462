import OpticalTiming.Proofs.Deadline
import OpticalTiming.Proofs.Rejecting
import OpticalTiming.Proofs.Rounds

/-!
# How long a call takes

On a steady bench, where no dispatch fails and nothing is cancelled, time passes only in waits: one
before each look of a poll, and one after a channel was selected for a measurement.
`Procedure.Timed` says so of a procedure and bounds its looks. It passes from the parts of a
procedure to the whole (`Timed.bind`), and the two polls of a master have it whatever the device
does (`timed_pollUntil`).

`keepsTime` says it of every call of a design: the time that the call takes is read off its journal,
and cannot exceed what the timeouts allow. The rounds of a poll are counted for the sake of
recursion only, and a poll that is given more of them does the same (`run_pollRounds_add`).
-/

namespace OpticalTiming

open Procedure

/-! ### Steady benches -/

/-- A bench on which nothing is queued, no dispatch fails and nothing is cancelled. Registers may be
left unfilled, so a value that was read can be missing. -/
structure Bench.Steady (bench : Bench) : Prop extends Bench.Ready bench where
  token : bench.token.Quiet

namespace Bench.Steady

variable {bench after : Bench}

theorem of_dispatched (h : bench.Steady) (hdispatched : bench.Dispatched after) :
    after.Steady where
  toReady := h.toReady.of_dispatched hdispatched
  token := by
    rw [hdispatched.token, h.token.afterDispatch]
    exact h.token

theorem later (h : bench.Steady) (ms : Nat) :
    Bench.Steady { bench with clock := bench.clock + ms } :=
  ⟨⟨h.queue, h.fault⟩, h.token⟩

theorem run_wait (h : bench.Steady) (ms : Nat) :
    (Procedure.wait ms).run bench =
      (.ok (), { bench with clock := bench.clock + waitLength ms }) := by
  rw [Procedure.run_wait, Bench.wait_of_quiet h.token]

end Bench.Steady

/-! ### Looks -/

namespace DesignConfig

variable (config : DesignConfig)

/-- The register that tells whether the upstream receiver has locked. -/
def statusPath : String := (RegisterBlock.mk config.registers.upstream).path "csr.stat.ep_stat"

/-- The register that tells whether an echo has come back. -/
def donePath : String := (RegisterBlock.mk config.registers.echo).path "csr.stat.rx_done"

/-- The number of reads of the status of the receiver and of the done bit of an echo. -/
def looks (accesses : List Access) : Nat :=
  (Access.readsOf config.statusPath accesses).length +
    (Access.readsOf config.donePath accesses).length

/-- The time that passes before each look. -/
def lookStep : Nat := waitLength config.pollInterval.toNat

/-- How often the status of the receiver is looked at before it is given up. -/
def lockLimit : Nat := pollLimit config.pollInterval.toNat config.lockTimeout.toNat

/-- How often the done bit is looked at before an echo is given up. -/
def echoLimit : Nat := pollLimit config.pollInterval.toNat config.echoTimeout.toNat

@[simp]
theorem looks_nil : config.looks [] = 0 := rfl

theorem looks_append (first second : List Access) :
    config.looks (first ++ second) = config.looks first + config.looks second := by
  simp only [looks, Access.readsOf_append, List.length_append]
  omega

theorem statusPath_ne_donePath : config.statusPath ≠ config.donePath := by
  have hapart : RegisterBlock.Apart "csr.stat.ep_stat" "csr.stat.rx_done" := by decide
  exact RegisterBlock.path_ne_of_apart hapart _ _

/-- A read of one of the two registers is one look. -/
theorem looks_fetched {path : String} (hpath : path = config.statusPath ∨ path = config.donePath)
    (number time : Nat) (value : UInt32) :
    config.looks [.fetched number time (path, value)] = 1 := by
  have hread : ∀ other, (Access.fetched number time (path, value)).IsReadOf other ↔
      path = other := by
    intro other
    simp only [Access.IsReadOf, Access.fetched, true_and]
  have hne := config.statusPath_ne_donePath
  simp only [looks, Access.readsOf_cons, hread, Access.readsOf_nil]
  rcases hpath with rfl | rfl
  · rw [if_pos rfl, if_neg hne]
    rfl
  · rw [if_neg hne.symm, if_pos rfl]
    rfl

/-- Whether the time from a bench to a steady one after it is accounted for by `settling`
milliseconds and one step for each look among the accesses in between, of which there are at most
`limit`. -/
structure Accounts (config : DesignConfig) (settling limit : Nat) (bench after : Bench)
    (accesses : List Access) : Prop where
  steady : after.Steady
  clock : after.clock = bench.clock + settling + config.looks accesses * config.lookStep
  looks_le : config.looks accesses ≤ limit

variable {config} {settling limit limit' : Nat} {bench after later : Bench}
  {accesses accesses' : List Access}

theorem Accounts.mono (h : config.Accounts settling limit bench after accesses)
    (hlimit : limit ≤ limit') : config.Accounts settling limit' bench after accesses :=
  ⟨h.steady, h.clock, Nat.le_trans h.looks_le hlimit⟩

theorem Accounts.trans (h : config.Accounts settling limit bench after accesses)
    (h' : config.Accounts 0 limit' after later accesses') :
    config.Accounts settling (limit + limit') bench later (accesses ++ accesses') where
  steady := h'.steady
  clock := by
    rw [h'.clock, h.clock, config.looks_append, Nat.add_mul]
    omega
  looks_le := by
    rw [config.looks_append]
    exact Nat.add_le_add h.looks_le h'.looks_le

/-- What happens at one time and is no look accounts for itself. -/
theorem Accounts.of_looks_eq_zero (hsteady : after.Steady) (hclock : after.clock = bench.clock)
    (hlooks : config.looks accesses = 0) : config.Accounts 0 0 bench after accesses where
  steady := hsteady
  clock := by simp [hclock, hlooks]
  looks_le := Nat.le_of_eq hlooks

end DesignConfig

/-! ### Procedures that take time for their looks only -/

namespace Procedure

variable {α β : Type} {config : DesignConfig} {settling limit limit' : Nat}

/-- Whether a procedure accounts for its time on a bench. -/
def TimedOn (config : DesignConfig) (settling limit : Nat) (p : Procedure α) (bench : Bench) :
    Prop :=
  config.Accounts settling limit bench (p.run bench).2 (p.commits bench)

/-- Whether it does so on all steady benches, whatever the device does. -/
def Timed (config : DesignConfig) (settling limit : Nat) (p : Procedure α) : Prop :=
  ∀ bench : Bench, bench.Steady → p.TimedOn config settling limit bench

theorem Timed.mono {p : Procedure α} (hp : p.Timed config settling limit) (h : limit ≤ limit') :
    p.Timed config settling limit' :=
  fun bench hsteady => (hp bench hsteady).mono h

theorem timed_ofExcept (result : Except Error α) : (ofExcept result).Timed config 0 0 := by
  intro bench hsteady
  rw [TimedOn, run_ofExcept, commits_ofExcept]
  exact .of_looks_eq_zero hsteady rfl rfl

theorem timed_done (a : α) : (done a).Timed config 0 0 := timed_ofExcept (.ok a)

theorem timed_fail (e : Error) : (fail e : Procedure α).Timed config 0 0 :=
  timed_ofExcept (.error e)

theorem timed_wallClock : wallClock.Timed config 0 0 := by
  intro bench hsteady
  rw [TimedOn, commits_wallClock]
  exact .of_looks_eq_zero hsteady rfl rfl

theorem timed_wait (ms : Nat) : (wait ms).Timed config (waitLength ms) 0 := by
  intro bench hsteady
  rw [TimedOn, hsteady.run_wait, commits_wait]
  exact ⟨hsteady.later _, by simp, Nat.le_refl 0⟩

/-- The looks of a sequence are those of its parts. -/
theorem Timed.bind {p : Procedure α} {f : α → Procedure β} (hp : p.Timed config settling limit)
    (hf : ∀ a, (f a).Timed config 0 limit') : (p >>= f).Timed config settling (limit + limit') := by
  intro bench hsteady
  have hfirst := hp bench hsteady
  unfold TimedOn at hfirst ⊢
  cases hrun : p.run bench with
  | mk result after =>
    rw [hrun] at hfirst
    cases result with
    | error e =>
      rw [run_bind_of_error hrun, commits_bind_of_error hrun]
      exact hfirst.mono (Nat.le_add_right limit limit')
    | ok a =>
      rw [run_bind_of_ok hrun, commits_bind_of_ok hrun]
      exact hfirst.trans (hf a after hfirst.steady)

/-- A sequence takes no longer than its first part if nothing that follows takes time. -/
theorem Timed.followed {p : Procedure α} {f : α → Procedure β} (hp : p.Timed config settling limit)
    (hf : ∀ a, (f a).Timed config 0 0) : (p >>= f).Timed config settling limit :=
  hp.bind hf

theorem Timed.attempt {p : Procedure α} (hp : p.Timed config settling limit) :
    p.attempt.Timed config settling limit := by
  intro bench hsteady
  rw [TimedOn, run_attempt, commits_attempt]
  exact hp bench hsteady

/-! ### Exchanges -/

/-- An exchange that reads neither of the two registers takes no time and is no look. -/
theorem timed_of_exchange {p : Procedure α}
    {Outcome : Bench → Except Error α → List Access → Prop} {footprint : Footprint}
    (h : ∀ bench : Bench, bench.bus.queue = [] → Exchange p bench (Outcome bench))
    (hwithin : p.Within footprint) (hstatus : config.statusPath ∉ footprint.reads)
    (hdone : config.donePath ∉ footprint.reads) : p.Timed config 0 0 := by
  intro bench hsteady
  obtain ⟨result, accesses, after, hrun, hdispatched, -, -⟩ :=
    (h bench hsteady.queue).run_of_fault_none hsteady.fault
  have hnone : ∀ path, path ∉ footprint.reads → Access.readsOf path (p.commits bench) = [] :=
    fun path hpath => Access.readsOf_eq_nil fun a ha =>
      not_isReadOf_of_within hwithin hsteady.queue hpath ha
  have hlooks : config.looks (p.commits bench) = 0 := by
    rw [DesignConfig.looks, hnone _ hstatus, hnone _ hdone]
    rfl
  rw [TimedOn, hrun]
  exact .of_looks_eq_zero (hsteady.of_dispatched hdispatched) hdispatched.clock hlooks

theorem timed_send (pairs : List (String × UInt32)) : (send pairs).Timed config 0 0 :=
  timed_of_exchange (fun bench _ => exchange_send pairs bench)
    (@within_send { reads := [], writes := pairs.map Prod.fst } pairs fun _ => List.mem_map_of_mem)
    List.not_mem_nil List.not_mem_nil

/-- The timestamps of an echo are read without a look. -/
theorem timed_stamps (block : RegisterBlock) :
    (block.snapshot EchoMonitor.stampLeaves).Timed config 0 0 := by
  refine timed_of_exchange (fun bench => block.exchange_snapshot EchoMonitor.stampLeaves)
    (@within_snapshot { reads := EchoMonitor.stampLeaves.map block.path, writes := [] } block _
      fun _ => List.mem_map_of_mem) (fun hmem => ?_) fun hmem => ?_
  · obtain ⟨leaf, hleaf, heq⟩ := List.mem_map.mp hmem
    exact RegisterBlock.path_ne_of_apart (EchoMonitor.apart_of_mem_stampLeaves hleaf).1 _ _ heq
  · obtain ⟨leaf, hleaf, heq⟩ := List.mem_map.mp hmem
    exact RegisterBlock.path_ne_of_apart (EchoMonitor.apart_of_mem_stampLeaves hleaf).2 _ _ heq

/-- Sending writes is never what takes time. -/
theorem OnlySends.timed {p : Procedure α} (hp : p.OnlySends) : p.Timed config 0 0 := by
  obtain ⟨batches, result, -, rfl⟩ := hp
  have hbatches : (sendAll batches).Timed config 0 0 := by
    induction batches with
    | nil => exact timed_done ()
    | cons pairs rest ih => exact (timed_send pairs).bind fun _ => ih
  exact hbatches.bind fun _ => timed_ofExcept result

/-- Writes that are sent on a steady bench arrive, so what follows them is done in any case. -/
theorem Timed.send_bind {p : Procedure α} (hp : p.Timed config settling limit)
    (pairs : List (String × UInt32)) :
    (send pairs >>= fun _ => p).Timed config settling limit := by
  intro bench hsteady
  obtain ⟨sent, hsend, hdispatched, -⟩ := run_send_of_healthy pairs hsteady.fault
  have hrest := hp sent (hsteady.of_dispatched hdispatched)
  have hnone : config.looks ((send pairs).commits bench) = 0 :=
    Nat.le_zero.mp (timed_send pairs bench hsteady).looks_le
  rw [TimedOn, run_bind_of_ok hsend, commits_bind_of_ok hsend]
  refine ⟨hrest.steady, ?_, ?_⟩
  · rw [hrest.clock, hdispatched.clock, config.looks_append, hnone, Nat.zero_add]
  · rw [config.looks_append, hnone, Nat.zero_add]
    exact hrest.looks_le

/-! ### Polls -/

variable {timeout start rounds k : Nat} {attempts : UInt32} {bench : Bench}

/-- A look is one read, at one time, whether or not it brings a value. -/
theorem exists_look_of_steady (block : RegisterBlock) (leaf : String) (accept : UInt32 → Bool)
    (hsteady : bench.Steady) :
    ∃ result looked value, (block.check leaf accept).run bench = (result, looked) ∧
      looked.Steady ∧ looked.clock = bench.clock ∧ (block.check leaf accept).commits bench =
        [.fetched (bench.bus.dispatches + 1) bench.clock (block.path leaf, value)] := by
  obtain ⟨result, accesses, looked, hrun, hdispatched, hcommits, value, rfl, -⟩ :=
    (block.exchange_fetch leaf hsteady.queue).run_of_fault_none hsteady.fault
  rw [Bus.flushed_of_queue_nil hsteady.queue, List.nil_append] at hcommits
  have hlooked := hsteady.of_dispatched hdispatched
  cases result with
  | error e =>
    exact ⟨_, looked, value, run_bind_of_error hrun _, hlooked, hdispatched.clock,
      (commits_bind_of_error hrun _).trans hcommits⟩
  | ok read =>
    refine ⟨_, looked, value, run_bind_of_ok hrun _, hlooked, hdispatched.clock,
      (commits_bind_of_ok hrun _).trans ?_⟩
    rw [hcommits, pure_eq, commits_done, List.append_nil]

/-- The rounds of a poll after `k` looks account for their time, however many of them are left. -/
theorem timedOn_pollRounds (hinterval : 0 < config.pollInterval.toNat) {block : RegisterBlock}
    {leaf : String} (hpath : block.path leaf = config.statusPath ∨ block.path leaf = config.donePath)
    (accept : UInt32 → Bool) (hsteady : bench.Steady)
    (hclock : bench.clock = start + k * waitLength config.pollInterval.toNat)
    (hk : k < pollLimit config.pollInterval.toNat timeout) :
    (pollRounds config.pollInterval.toNat timeout start (block.check leaf accept) rounds
      attempts).TimedOn config 0 (pollLimit config.pollInterval.toNat timeout - k) bench := by
  induction rounds generalizing k attempts bench with
  | zero => exact (timed_done _ bench hsteady).mono (Nat.zero_le _)
  | succ rounds ih =>
    have hwait := hsteady.run_wait config.pollInterval.toNat
    obtain ⟨result, looked, value, hlook, hlooked, hsame, hread⟩ :=
      exists_look_of_steady block leaf accept
        (hsteady.later (waitLength config.pollInterval.toNat))
    -- The wait before a look is the step of this look.
    have hround : config.Accounts 0 1 bench looked ((block.check leaf accept).commits
        { bench with clock := bench.clock + waitLength config.pollInterval.toNat }) := by
      have hone := config.looks_fetched hpath (bench.bus.dispatches + 1)
        (bench.clock + waitLength config.pollInterval.toNat) value
      refine ⟨hlooked, ?_, ?_⟩
      · rw [hread, hsame, hone, Nat.one_mul]
        rfl
      · exact Nat.le_of_eq (by rw [hread, hone])
    cases pollRound config.pollInterval.toNat timeout start (block.check leaf accept) attempts
      bench with
    | refused e stopped wait run commits => cases wait.symm.trans hwait
    | ended waited checked outcome wait look time run commits =>
      cases wait.symm.trans hwait
      cases look.symm.trans hlook
      rw [TimedOn, run, commits]
      exact hround.mono (by omega)
    | next waited checked wait look time run commits =>
      cases wait.symm.trans hwait
      obtain ⟨-, rfl⟩ := Prod.mk.inj (look.symm.trans hlook)
      have hlater : checked.clock = start + (k + 1) * waitLength config.pollInterval.toNat := by
        rw [hsame, Nat.succ_mul]
        show bench.clock + waitLength config.pollInterval.toNat = _
        omega
      have hmore := lt_pollLimit_of_not_le hinterval hlater time
      rw [TimedOn, run, commits]
      exact (hround.trans (ih hlooked hlater hmore)).mono (by omega)

/-- A poll of one of the two registers accounts for its time. -/
theorem timed_pollUntil (hinterval : 0 < config.pollInterval.toNat) (block : RegisterBlock)
    {leaf : String} (hpath : block.path leaf = config.statusPath ∨ block.path leaf = config.donePath)
    (accept : UInt32 → Bool) (timeout : Nat) :
    (pollUntil config.pollInterval.toNat timeout (block.check leaf accept)).Timed config 0
      (pollLimit config.pollInterval.toNat timeout) := by
  intro bench hsteady
  have hnow : now.run bench = (.ok bench.clock, bench) := run_now bench
  rw [TimedOn, pollUntil, run_bind_of_ok hnow, commits_bind_of_ok hnow, commits_now,
    List.nil_append]
  exact timedOn_pollRounds hinterval hpath accept hsteady (by omega) (Nat.le_max_left 1 _)

end Procedure

/-! ### The blocks of a master -/

section

variable {config : DesignConfig} (hinterval : 0 < config.pollInterval.toNat) (withUpstream : Bool)
include hinterval

theorem Master.timed_enableUpstream :
    (Master.ofConfig config withUpstream).enableUpstream.Timed config 0 config.lockLimit := by
  cases withUpstream with
  | false => exact (timed_fail noUpstream).mono (Nat.zero_le _)
  | true =>
    have hpoll := timed_pollUntil hinterval ⟨config.registers.upstream⟩ (.inl rfl)
      UpstreamReceiver.isReady config.lockTimeout.toNat
    have hlock := hpoll.followed fun outcome => timed_done outcome.satisfied
    show (UpstreamReceiver.enable _).Timed config 0 config.lockLimit
    rw [UpstreamReceiver.enable_eq]
    exact Timed.send_bind (hlock.send_bind _) _

theorem Master.timed_echo :
    ((Master.ofConfig config withUpstream).echo.measure
      (Master.ofConfig config withUpstream).echoOptions).Timed config 0 config.echoLimit := by
  have hpoll := timed_pollUntil hinterval ⟨config.registers.echo⟩ (.inr rfl)
    EchoMonitor.isDone config.echoTimeout.toNat
  rw [EchoMonitor.measure_eq]
  refine Timed.send_bind (hpoll.followed fun outcome => ?_) _
  split
  · exact (timed_stamps _).bind fun stamps => timed_ofExcept _
  · exact timed_fail _

theorem Master.timed_lockAndEcho (address : EndpointAddress) :
    ((Master.ofConfig config withUpstream).lockAndEcho address).Timed config 0
      (config.lockLimit + config.echoLimit) := by
  cases withUpstream with
  | false => exact (timed_echo hinterval false).mono (Nat.le_add_left _ _)
  | true =>
    rw [lockAndEcho_of_some rfl]
    refine (timed_enableUpstream hinterval true).bind fun locked => ?_
    split
    · exact timed_echo hinterval true
    · exact (timed_fail _).mono (Nat.zero_le _)

/-! ### Scans -/

theorem MuxScanner.timed_switchTo (mux : FanoutMux) (channel : MuxChannel) (waitForLock : Bool) :
    ((ofMaster (.ofConfig config withUpstream) mux).switchTo channel waitForLock).Timed config 0
      config.lockLimit := by
  have hselect : (mux.select channel).Timed config 0 0 := by
    cases hcheck : mux.checkChannel channel with
    | error e =>
      rw [FanoutMux.select, hcheck]
      exact timed_fail e
    | ok u =>
      rw [FanoutMux.select_eq hcheck]
      exact timed_send _
  have hlock : Timed config 0 config.lockLimit (do
      if waitForLock then
        unless ← (Master.ofConfig config withUpstream).enableUpstream do
          throw (.lockFailure s!"mux channel {channel.text}")) := by
    cases waitForLock with
    | false => exact (timed_done ()).mono (Nat.zero_le _)
    | true =>
      refine (Master.timed_enableUpstream hinterval withUpstream).followed fun locked => ?_
      cases locked with
      | true => exact timed_done ()
      | false => exact timed_fail _
  exact (hselect.bind fun _ => hlock).mono (Nat.le_of_eq (Nat.zero_add _))

theorem MuxScanner.timed_scanFrom (mux : FanoutMux) (first : UInt32) (count : Nat) :
    ((ofMaster (.ofConfig config withUpstream) mux).scanFrom first count).Timed config 0
      (count * config.lockLimit) := by
  induction count generalizing first with
  | zero => exact (timed_done _).mono (Nat.zero_le _)
  | succ count ih =>
    have hswitch := (timed_switchTo hinterval withUpstream mux ⟨first⟩ true).attempt
    rw [Nat.succ_mul, Nat.add_comm]
    refine hswitch.bind fun result => ?_
    cases result with
    | ok u => exact (ih (first + 1)).bind fun _ => timed_done _
    | error e =>
      dsimp only
      split
      · exact (ih (first + 1)).followed fun _ => timed_done _
      · exact (timed_fail e).mono (Nat.zero_le _)

theorem MuxScanner.timed_scan (mux : FanoutMux) (count : UInt32) :
    ((ofMaster (.ofConfig config withUpstream) mux).scan count).Timed config 0
      (count.toNat * config.lockLimit) := by
  unfold scan
  split
  · exact (timed_fail _).mono (Nat.zero_le _)
  · exact timed_scanFrom hinterval withUpstream mux 0 count.toNat

end

/-! ### Calls -/

namespace Design

variable {design : Design} {settings : CalibrationSettings} {config : DesignConfig}
  {withUpstream : Bool} {link : Link} {bench : Bench}

/-- What is done with the scanner of a design. -/
theorem timed_scanner {α : Type} {limit : Nat} {f : MuxScanner → Procedure α} (design : Design)
    (hf : ∀ mux, (f (.ofMaster design.master mux)).Timed config 0 limit) :
    (ofExcept design.scanner >>= f).Timed config 0 limit := by
  unfold scanner
  cases design.mux with
  | none => exact (timed_fail noMux).mono (Nat.zero_le _)
  | some mux => exact hf mux

/-- Putting an endpoint on the link takes the time for which the link settles. -/
theorem timed_route (settings : CalibrationSettings) (h : design.Accepts link) :
    ((design.calibrationWith settings).route link.address link.controlSfp link.channel?).Timed
      config (Design.settling settings link.channel?) 0 := by
  obtain ⟨address, controlSfp, channel?⟩ := link
  cases channel? with
  | some channel =>
    rw [route_channel h.target h.channel rfl]
    exact (timed_wait settings.muxSettle.toNat).send_bind _
  | none =>
    cases controlSfp with
    | false => exact timed_done ()
    | true =>
      rw [route_direct h.target]
      exact timed_send _

/-- Concluding a measurement takes no time, whether or not it releases the endpoint. -/
theorem timed_conclude {address : EndpointAddress} (htarget : address.IsTarget) (design : Design)
    (settings : CalibrationSettings) (controlSfp : Bool) (result : Except Error RoundTrip) :
    (design.conclude settings address controlSfp result).Timed config 0 0 := by
  cases result with
  | ok roundTrip => exact timed_done roundTrip
  | error e =>
    have hrelease : (design.releaseAfter settings address controlSfp e).Timed config 0 0 := by
      unfold releaseAfter
      split
      · rw [release_eq htarget]
        exact timed_send _
      · exact timed_done ()
    exact hrelease.attempt.bind fun _ => timed_fail e

theorem timed_measure (hmaster : design.master = .ofConfig config withUpstream)
    (hinterval : 0 < config.pollInterval.toNat) (settings : CalibrationSettings)
    (h : design.Accepts link) :
    (link.measure design settings).Timed config (Design.settling settings link.channel?)
      (config.lockLimit + config.echoLimit) := by
  have hlock := (Master.timed_lockAndEcho hinterval withUpstream link.address).attempt
  rw [← hmaster] at hlock
  rw [Link.measure, isolateAndMeasure_eq h.target]
  have hecho := hlock.followed (timed_conclude h.target design settings link.controlSfp)
  exact ((timed_route settings h).bind fun _ => hecho).mono (Nat.le_of_eq (Nat.zero_add _))

/-- The time that a call lets the link settle: it does so if it measures through a channel, and
nothing is wrong with its arguments. -/
def Call.settling (design : Design) (settings : CalibrationSettings) (call : Call) : Nat :=
  match call.measured with
  | none => 0
  | some link =>
    if (design.verdict? link.address link.channel?).isNone then
      Design.settling settings link.channel?
    else
      0

/-- How often a call looks at most. -/
def Call.lookLimit (config : DesignConfig) : Call → Nat
  | measure _ _ _ | measureDirect _ _ | apply _ _ _ _ _ | applyStored _ _ =>
    config.lockLimit + config.echoLimit
  | scan count => count.toNat * config.lockLimit
  | switchMux _ _ => config.lockLimit
  | configure => 0

/-- Every call accounts for its time. -/
theorem timed_perform (hmaster : design.master = .ofConfig config withUpstream)
    (hinterval : 0 < config.pollInterval.toNat) (settings : CalibrationSettings) (call : Call) :
    (call.perform design settings).Timed config (call.settling design settings)
      (call.lookLimit config) := by
  cases hmeasured : call.measured with
  | some link =>
    have hlimit : call.lookLimit config = config.lockLimit + config.echoLimit := by
      cases call <;> first | rfl | cases hmeasured
    rw [hlimit, Call.settling, hmeasured]
    dsimp only
    rcases call.perform_of_measured design settings hmeasured with
      ⟨hnot, e, -, hrefused⟩ | ⟨haccepts, rest, hrest, hperform⟩
    · rw [if_neg (mt (verdict?_isNone_iff design link).mp hnot), hrefused]
      exact (timed_fail e).mono (Nat.zero_le _)
    · rw [if_pos ((verdict?_isNone_iff design link).mpr haccepts), hperform]
      refine (timed_measure hmaster hinterval settings haccepts).followed fun roundTrip => ?_
      obtain ⟨batches, value, hsends⟩ := hrest roundTrip
      rw [hsends]
      exact (onlySends_sendAll batches value).timed
  | none =>
    rw [Call.settling, hmeasured]
    dsimp only
    rcases call.cases_of_unmeasured design settings hmeasured with
      hsends | ⟨count, rfl⟩ | ⟨channel, waitForLock, rfl⟩ | rfl
    · exact hsends.timed.mono (Nat.zero_le _)
    · refine timed_scanner design fun mux => ?_
      rw [hmaster]
      exact MuxScanner.timed_scan hinterval withUpstream mux count
    · refine timed_scanner design fun mux => ?_
      rw [hmaster]
      exact MuxScanner.timed_switchTo hinterval withUpstream mux channel waitForLock
    · show design.configure.Timed config 0 0
      rw [configure_eq]
      exact timed_wallClock.followed fun time => (design.onlySends_configureAt time).timed

/-- The time that a call is allowed: what its timeouts say, with one more interval for each poll. -/
def Call.allowance (settings : CalibrationSettings) (config : DesignConfig) : Call → Nat
  | measure _ _ _ | measureDirect _ _ | apply _ _ _ _ _ | applyStored _ _ =>
    settings.muxSettle.toNat + config.lockTimeout.toNat + config.echoTimeout.toNat +
      2 * config.pollInterval.toNat
  | scan count => count.toNat * (config.lockTimeout.toNat + config.pollInterval.toNat)
  | switchMux _ _ => config.lockTimeout.toNat + config.pollInterval.toNat
  | configure => 0

theorem Call.settling_le (design : Design) (settings : CalibrationSettings) (call : Call) :
    call.settling design settings ≤ settings.muxSettle.toNat := by
  have hsettling : ∀ channel?, Design.settling settings channel? ≤ settings.muxSettle.toNat := by
    intro channel?
    unfold Design.settling
    split
    · exact waitLength_le _
    · exact Nat.zero_le _
  unfold Call.settling
  split
  · exact Nat.zero_le _
  · split
    · exact hsettling _
    · exact Nat.zero_le _

/-- As many looks as a call can take fit into its allowance. -/
theorem Call.settling_add_le (design : Design) (settings : CalibrationSettings)
    (hinterval : 0 < config.pollInterval.toNat) (call : Call) :
    call.settling design settings + call.lookLimit config * config.lookStep ≤
      call.allowance settings config := by
  have hpoll : ∀ timeout, pollLimit config.pollInterval.toNat timeout * config.lookStep ≤
      timeout + config.pollInterval.toNat := pollDeadline_le hinterval
  have hlock : config.lockLimit * config.lookStep ≤ _ := hpoll config.lockTimeout.toNat
  have hecho : config.echoLimit * config.lookStep ≤ _ := hpoll config.echoTimeout.toNat
  have hsettling := call.settling_le design settings
  cases call with
  | scan count =>
    show 0 + count.toNat * config.lockLimit * config.lookStep ≤ _
    rw [Nat.zero_add, Nat.mul_assoc]
    exact Nat.mul_le_mul_left count.toNat hlock
  | switchMux channel waitForLock =>
    show 0 + config.lockLimit * config.lookStep ≤ _
    rw [Nat.zero_add]
    exact hlock
  | configure =>
    show 0 + 0 * config.lookStep ≤ 0
    omega
  | _ =>
    rw [Call.lookLimit, Call.allowance, Nat.add_mul]
    omega

end Design

/-! ### The time of a call -/

/-- What the time of a run is, and that it is not more than allowed. -/
structure Procedure.Takes {α : Type} (config : DesignConfig) (settling allowance : Nat)
    (p : Procedure α) (bench : Bench) : Prop where
  clock : (p.run bench).2.clock =
    bench.clock + settling + config.looks (p.commits bench) * config.lookStep
  clock_le : (p.run bench).2.clock ≤ bench.clock + allowance

theorem Procedure.Timed.takes {α : Type} {config : DesignConfig} {settling limit allowance : Nat}
    {p : Procedure α} (hp : p.Timed config settling limit)
    (hallowance : settling + limit * config.lookStep ≤ allowance) {bench : Bench}
    (hsteady : bench.Steady) : p.Takes config settling allowance bench := by
  obtain ⟨-, hclock, hlooks⟩ := hp bench hsteady
  have htime := Nat.mul_le_mul_right config.lookStep hlooks
  exact ⟨hclock, by omega⟩

/-- Whether polls with an interval end by themselves: on every bench where nothing is queued, and
whatever goes wrong there, more rounds than a poll is given would change nothing. -/
def PollsEnd (interval : Nat) : Prop :=
  ∀ (timeout : Nat) (block : RegisterBlock) (leaf : String) (accept : UInt32 → Bool) (bench : Bench),
    bench.Idle → ∀ more : Nat,
      (pollRounds interval timeout bench.clock (block.check leaf accept)
        (pollBound interval timeout + more) 0).run bench =
      (pollUntil interval timeout (block.check leaf accept)).run bench

theorem pollsEnd {interval : Nat} (hinterval : 0 < interval) : PollsEnd interval := by
  intro timeout block leaf accept bench _ more
  have hnow : now.run bench = (.ok bench.clock, bench) := run_now bench
  have hbound : pollLimit interval timeout ≤ 0 + pollBound interval timeout := by
    rw [Nat.zero_add]
    exact pollLimit_le_pollBound timeout hinterval
  rw [pollUntil, run_bind_of_ok hnow]
  exact run_pollRounds_add hinterval (instant_check block leaf accept) (by omega)
    (Nat.le_max_left 1 _) hbound more

namespace Design

variable {design : Design} {config : DesignConfig} {withUpstream : Bool} {bench : Bench}

/-- Every call takes the time for which it lets the link settle and one step for each look that it
commits, and this is no more than its allowance. -/
structure KeepsTime (design : Design) (settings : CalibrationSettings) (config : DesignConfig)
    (bench : Bench) : Prop where
  call : ∀ call : Call, (call.perform design settings).Takes config (call.settling design settings)
    (call.allowance settings config) bench
  /-- A scanner can have any multiplexer. -/
  scan : ∀ mux count, ((MuxScanner.ofMaster design.master mux).scan count).Takes config 0
    ((Call.scan count).allowance settings config) bench
  switchTo : ∀ mux channel waitForLock,
    ((MuxScanner.ofMaster design.master mux).switchTo channel waitForLock).Takes config 0
      ((Call.switchMux channel waitForLock).allowance settings config) bench
  polls : PollsEnd config.pollInterval.toNat

/-- On a steady bench the calls of a design with an interval that is not zero keep their time,
whatever the device does and however they end. -/
theorem keepsTime (hmaster : design.master = .ofConfig config withUpstream)
    (hinterval : 0 < config.pollInterval.toNat) (settings : CalibrationSettings)
    (hsteady : bench.Steady) : design.KeepsTime settings config bench where
  call call := (timed_perform hmaster hinterval settings call).takes
    (call.settling_add_le design settings hinterval) hsteady
  scan mux count := by
    rw [hmaster]
    exact (MuxScanner.timed_scan hinterval withUpstream mux count).takes
      ((Call.scan count).settling_add_le design settings hinterval) hsteady
  switchTo mux channel waitForLock := by
    rw [hmaster]
    exact (MuxScanner.timed_switchTo hinterval withUpstream mux channel waitForLock).takes
      ((Call.switchMux channel waitForLock).settling_add_le design settings hinterval) hsteady
  polls := pollsEnd hinterval

/-- The reference system keeps its time. -/
theorem keepsTime_reference :
    reference.master = .ofConfig .standard true ∧
      reference.KeepsTime (.ofConfig .standard) .standard (answering 0) := by
  have hsteady : (answering 0).Steady := ⟨⟨rfl, rfl⟩, rfl, rfl, Or.inl rfl⟩
  exact ⟨rfl, keepsTime rfl (by decide) _ hsteady⟩

/-- A measurement through a channel lets the link settle, and looks once at the lock and once at the
done bit. -/
example : ((reference.calibration.measure ⟨7⟩ true (some ⟨2⟩)).run (answering 0)).2.clock =
    200 + 2 * 100 := by rfl

/-- A configuration whose interval and timeouts are longer than the longest wait. -/
def patientConfig : DesignConfig :=
  { DesignConfig.standard with
    pollInterval := 946080000001
    echoTimeout := 946080000001
    lockTimeout := 946080000001 }

/-- The time of a call is not its looks times the interval of its configuration: an interval beyond
the longest wait is over before its time. -/
theorem time_short_of_interval :
    ¬ ∀ (design : Design) (config : DesignConfig) (withUpstream : Bool)
      (settings : CalibrationSettings) (address : EndpointAddress) (bench : Bench),
      design.master = .ofConfig config withUpstream → 0 < config.pollInterval.toNat →
      bench.Steady →
      let p := (Call.measure address false none).perform design settings
      (p.run bench).2.clock =
        bench.clock + config.looks (p.commits bench) * config.pollInterval.toNat := by
  intro h
  have hsteady : (answering 0).Steady := ⟨⟨rfl, rfl⟩, rfl, rfl, Or.inl rfl⟩
  have htime := h ⟨patientConfig, .ofConfig patientConfig false, none⟩ patientConfig false {} ⟨7⟩
    (answering 0) rfl (by decide) hsteady
  revert htime
  decide +kernel

end Design

end OpticalTiming
