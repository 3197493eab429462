import OpticalTiming.Firmware.CommandChannels
import OpticalTiming.Proofs.Sending

/-!
# Pulses of a command

A command is sent as a row of batches with one write each (`pulses_eq_sendAll`), so what becomes of
its pulses is a case of how far a row of batches comes: up to the first dispatch that is refused.
`Bus.granted` is the number of batches that arrive and `Bus.verdict` the result. A dispatch that is
granted takes one off both the batches and the failure to come (`granted_succ`, `verdict_succ`), and
this carries the induction on the batches (`advances_sendAll`).

`pulsed_send` says so of the pulses, and that no other channel has a part in them, since the number
of a channel can be told from the path of its register (`commandPath_injective`).
-/

namespace OpticalTiming

open Procedure

/-! ### How far a row of batches comes -/

namespace Bus

/-- How many of `count` dispatches in a row are granted. -/
def granted (bus : Bus) (count : Nat) : Nat :=
  match bus.fault with
  | none => count
  | some fault => min fault.remaining count

/-- The result of `count` dispatches in a row, which ends with the first one that is refused. -/
def verdict (bus : Bus) (count : Nat) : Except Error Unit :=
  match bus.fault with
  | none => .ok ()
  | some fault => if count ≤ fault.remaining then .ok () else .error (.bus fault.message)

variable {bus next : Bus}

theorem granted_zero (bus : Bus) : bus.granted 0 = 0 := by
  unfold granted
  split
  · rfl
  · exact Nat.min_zero _

theorem verdict_zero (bus : Bus) : bus.verdict 0 = .ok () := by
  unfold verdict
  split
  · rfl
  · exact if_pos (Nat.zero_le _)

/-- Of a row that begins with a dispatch that is granted, one more is granted than of the rest. -/
theorem granted_succ (hdue : ∀ message, bus.fault ≠ some { remaining := 0, message })
    (hnext : next.fault = bus.fault.map Fault.tick) (count : Nat) :
    bus.granted (count + 1) = next.granted count + 1 := by
  unfold granted
  rw [hnext]
  cases hfault : bus.fault with
  | none => rfl
  | some fault =>
    obtain ⟨_ | remaining, message⟩ := fault
    · exact absurd hfault (hdue message)
    · -- The dispatch takes one off the failure as well as off the row.
      show min (remaining + 1) (count + 1) = min remaining count + 1
      omega

theorem verdict_succ (hdue : ∀ message, bus.fault ≠ some { remaining := 0, message })
    (hnext : next.fault = bus.fault.map Fault.tick) (count : Nat) :
    bus.verdict (count + 1) = next.verdict count := by
  unfold verdict
  rw [hnext]
  cases hfault : bus.fault with
  | none => rfl
  | some fault =>
    obtain ⟨_ | remaining, message⟩ := fault
    · exact absurd hfault (hdue message)
    · simp [Fault.tick]

end Bus

namespace Procedure

variable {bench : Bench}

/-- What is known of a row of batches on a bench with nothing queued: they arrive in order, each in
the next dispatch and without a pause, up to the first dispatch that is refused. -/
structure Advances (batches : List (List (String × UInt32))) (bench after : Bench) : Prop where
  run : (sendAll batches).run bench = (bench.bus.verdict batches.length, after)
  commits : (sendAll batches).commits bench = Access.sent bench.clock (bench.bus.dispatches + 1)
    (batches.take (bench.bus.granted batches.length))
  queue : after.bus.queue = []
  dispatches : after.bus.dispatches = bench.bus.dispatches + bench.bus.granted batches.length
  clock : after.clock = bench.clock

theorem advances_sendAll (batches : List (List (String × UInt32))) {bench : Bench}
    (hidle : bench.bus.queue = []) : ∃ after, Advances batches bench after := by
  induction batches generalizing bench with
  | nil =>
    have hgranted := bench.bus.granted_zero
    refine ⟨bench, ⟨?_, ?_, hidle, ?_, rfl⟩⟩
    · rw [List.length_nil, Bus.verdict_zero]
      rfl
    · rw [List.take_nil]
      exact commits_done () bench
    · rw [List.length_nil, hgranted, Nat.add_zero]
  | cons pairs rest ih =>
    cases exchange_send pairs bench with
    | refused message after fault run refused commits =>
      have hgranted : bench.bus.granted (rest.length + 1) = 0 := by
        simp [Bus.granted, fault]
      have hverdict : bench.bus.verdict (rest.length + 1) = .error (.bus message) := by
        simp [Bus.verdict, fault]
      refine ⟨after, ⟨?_, ?_, refused.queue, ?_, refused.clock⟩⟩
      · rw [List.length_cons, hverdict, sendAll, run_bind_of_error run]
      · rw [List.length_cons, hgranted, sendAll, commits_bind_of_error run, commits]
        rfl
      · rw [List.length_cons, hgranted, refused.dispatches, Nat.add_zero]
    | committed result accesses sent due run dispatched commits outcome =>
      obtain ⟨rfl, rfl⟩ := outcome
      -- The rest starts one dispatch later, and one dispatch nearer to the failure.
      obtain ⟨after, hrest⟩ := ih dispatched.queue
      have hgranted := Bus.granted_succ due dispatched.fault rest.length
      have hverdict := Bus.verdict_succ due dispatched.fault rest.length
      rw [Bus.flushed_of_queue_nil hidle, List.nil_append] at commits
      refine ⟨after, ⟨?_, ?_, hrest.queue, ?_, hrest.clock.trans dispatched.clock⟩⟩
      · rw [List.length_cons, hverdict, sendAll, run_bind_of_ok run, hrest.run]
      · rw [List.length_cons, hgranted, sendAll, commits_bind_of_ok run, commits, hrest.commits,
          dispatched.clock, dispatched.dispatches]
        rfl
      · rw [List.length_cons, hgranted, hrest.dispatches, dispatched.dispatches]
        omega

end Procedure

/-! ### Pulses -/

/-- The accesses of pulses that have dispatches of their own, the first of them with the given
number. -/
def Access.pulses (number time : Nat) (pulse : String × UInt32) (count : Nat) : List Access :=
  (List.range count).map fun i => .written (number + i) time pulse

theorem Access.sent_replicate (number time : Nat) (pulse : String × UInt32) (count : Nat) :
    sent time number (List.replicate count [pulse]) = pulses number time pulse count := by
  induction count generalizing number with
  | zero => rfl
  | succ count ih =>
    rw [List.replicate_succ, sent, ih, pulses, pulses, List.range_succ_eq_map,
      List.map_cons (a := 0), List.map_map]
    refine congrArg (_ :: ·) (List.map_congr_left fun i _ => ?_)
    show written (number + 1 + i) time pulse = written (number + (i + 1)) time pulse
    rw [Nat.add_right_comm, Nat.add_assoc]

/-- Pulses have different numbers, so each is alone in its dispatch. -/
theorem Access.pairwise_pulses (number time : Nat) (pulse : String × UInt32) (count : Nat) :
    (pulses number time pulse count).Pairwise fun a b => a.dispatch < b.dispatch :=
  List.pairwise_map.mpr (List.pairwise_lt_range.imp fun h => Nat.add_lt_add_left h number)

namespace CommandChannels

variable {channels : CommandChannels} {channel : UInt32} {bench : Bench}

/-- Pulses are batches of one write each. -/
theorem pulses_eq_sendAll (path : String) (code : UInt32) (count : Nat) :
    pulses path code count = sendAll (List.replicate count [(path, code)]) := by
  induction count with
  | zero => rfl
  | succ count ih =>
    rw [pulses, ih]
    rfl

/-- The decimal text of a number tells the number. -/
theorem toString_injective {m n : UInt32} (h : toString m = toString n) : m = n := by
  have hdigits := congrArg (fun text : String => Nat.ofDigitChars 10 text.toList 0) h
  have htext : ∀ k : UInt32, (toString k).toList = Nat.toDigits 10 k.toNat :=
    fun k => Nat.toList_repr
  simp only [htext, Nat.ofDigitChars_toDigits (by decide : 1 < 10) (Nat.le_refl 10)] at hdigits
  exact UInt32.toNat_inj.mp hdigits

/-- Two channels have different command registers. -/
theorem commandPath_injective (channels : CommandChannels) {channel other : UInt32}
    (h : channels.commandPath channel = channels.commandPath other) : channel = other := by
  have hleaf : "chan" ++ toString channel ++ ".cmd" = "chan" ++ toString other ++ ".cmd" :=
    channels.block.leaf_injective h
  have hnumber := (String.append_right_inj _).mp ((String.append_left_inj _).mp hleaf)
  exact toString_injective hnumber

theorem send_eq (command : FixedLengthCommand) (count : UInt32) (h : channel < channels.count) :
    channels.send command channel count =
      sendAll (List.replicate count.toNat [(channels.commandPath channel, command.code)]) := by
  rw [send, if_pos h, pulses_eq_sendAll]

/-- The pulses that a command leaves in the journal if `granted` of them arrive. -/
def pulsesOn (channels : CommandChannels) (command : FixedLengthCommand) (channel : UInt32)
    (bench : Bench) (granted : Nat) : List Access :=
  Access.pulses (bench.bus.dispatches + 1) bench.clock
    (channels.commandPath channel, command.code) granted

/-- What is known of a command that was sent `count` times on a channel. -/
structure Pulsed (channels : CommandChannels) (command : FixedLengthCommand)
    (channel count : UInt32) (bench : Bench) (result : Except Error Unit) (after : Bench)
    (accesses : List Access) : Prop where
  /-- Without a failure to come, all pulses arrive. -/
  unlimited : bench.bus.fault = none →
    accesses = channels.pulsesOn command channel bench count.toNat ∧ result = .ok ()
  /-- If `k` more dispatches are granted, no more than `k` pulses arrive, and one too many is
  refused with the failure that was arranged. -/
  limited : ∀ k message, bench.bus.fault = some { remaining := k, message } →
    accesses = channels.pulsesOn command channel bench (min k count.toNat) ∧
      (result = .ok () ↔ count.toNat ≤ k) ∧ (k < count.toNat → result = .error (.bus message))
  /-- Each pulse is alone in its dispatch, and no dispatch is without one. -/
  alone : accesses.Pairwise fun a b => a.dispatch < b.dispatch
  dispatches : after.bus.dispatches = bench.bus.dispatches + accesses.length
  queue : after.bus.queue = []
  /-- No time passes between the pulses. -/
  clock : after.clock = bench.clock
  /-- Another channel has another register, to which nothing is written. -/
  others : ∀ other, other ≠ channel →
    channels.commandPath other ≠ channels.commandPath channel ∧
      Access.writesTo (channels.commandPath other) accesses = []

/-- A command is sent in single pulses, on its channel alone, until they are all sent or one is
refused. -/
theorem pulsed_send (channels : CommandChannels) (command : FixedLengthCommand) (count : UInt32)
    (hchannel : channel < channels.count) (hidle : bench.bus.queue = []) :
    ∃ result after, (channels.send command channel count).run bench = (result, after) ∧
      channels.Pulsed command channel count bench result after
        ((channels.send command channel count).commits bench) := by
  obtain ⟨after, hrun, hcommits, hqueue, hdispatches, hclock⟩ := advances_sendAll
    (List.replicate count.toNat [(channels.commandPath channel, command.code)]) hidle
  rw [List.length_replicate] at hrun hcommits hdispatches
  rw [List.take_replicate, Access.sent_replicate] at hcommits
  have hgranted : min (bench.bus.granted count.toNat) count.toNat =
      bench.bus.granted count.toNat := by
    unfold Bus.granted
    split <;> omega
  rw [hgranted] at hcommits
  rw [send_eq command count hchannel, hcommits]
  refine ⟨_, after, hrun, ?unlimited, ?limited, Access.pairwise_pulses _ _ _ _, ?dispatches, hqueue,
    hclock, ?others⟩
  case unlimited =>
    intro hfault
    unfold Bus.granted Bus.verdict
    rw [hfault]
    exact ⟨rfl, rfl⟩
  case limited =>
    intro k message hfault
    simp only [Bus.granted, Bus.verdict, hfault]
    refine ⟨rfl, ?_, fun hlt => if_neg (Nat.not_le.mpr hlt)⟩
    by_cases hle : count.toNat ≤ k <;> simp [hle]
  case dispatches =>
    rw [hdispatches, Access.pulses, List.length_map, List.length_range]
  case others =>
    intro other hother
    have hpath : channels.commandPath other ≠ channels.commandPath channel :=
      fun heq => hother (channels.commandPath_injective heq)
    refine ⟨hpath, Access.writesTo_eq_nil fun a ha hwrite => hpath ?_⟩
    obtain ⟨i, -, rfl⟩ := List.mem_map.mp ha
    exact hwrite.2.symm

/-- The command generator of the reference system. -/
def referenceChannels : CommandChannels where
  block := ⟨"master.scmd_gen"⟩
  count := 5

/-- A bench on which the second dispatch fails. -/
def goneAfterOne : Bench where
  bus := Bus.failAfter {} 1 "gone"
  wallClock := (Design.answering 0).wallClock

theorem pulsed_send_reference :
    (2 : UInt32) < referenceChannels.count ∧ goneAfterOne.bus.queue = [] ∧
      ∃ result after, (referenceChannels.send .trigger 2 4).run goneAfterOne = (result, after) ∧
        referenceChannels.Pulsed .trigger 2 4 goneAfterOne result after
          ((referenceChannels.send .trigger 2 4).commits goneAfterOne) :=
  ⟨by decide, rfl, pulsed_send referenceChannels .trigger 4 (by decide) rfl⟩

end CommandChannels

end OpticalTiming
