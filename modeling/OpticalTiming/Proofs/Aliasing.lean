import OpticalTiming.Proofs.Configuring
import OpticalTiming.Proofs.Confining
import OpticalTiming.Proofs.Latching
import OpticalTiming.Proofs.Pulsing

/-!
# No two registers have one path

A `Register` is one that the driver uses, and a `RegisterMap` gives it a path. The names of the
blocks are arbitrary: they may be empty, equal or nested in one another. Whatever they are, the
leaves keep the registers apart (`eq_or_strobes_or_apart`), except for the strobes of the echo
monitor and of the delay line, which have the same leaf and are told apart by their blocks alone.
The channels of the command generator are told apart by their numbers, and from everything else by
the last part of their leaves (`apart_command`). `path_eq_iff` puts this together.

These registers are all: every access of a call, of a look at the counter, of a synchronisation and
of a command is one of them, since the paths of every footprint are `Listed`.
-/

namespace OpticalTiming

open Procedure

/-- A register that the driver uses. -/
inductive Register where
  | counterHigh
  | counterLow
  /-- The upper half of a value that is loaded into the counter. -/
  | loadHigh
  | loadLow
  | echoStrobe
  | echoDone
  /-- The upper half of the transmit timestamp of an echo. -/
  | sentHigh
  | sentLow
  | receivedHigh
  | receivedLow
  /-- The control register of the transmitters. -/
  | transmitters
  | delayAddress
  | delayCoarse
  | delayFine
  | delayPhase
  | delayUpdate
  | delayStrobe
  /-- The register that restarts the upstream receiver. -/
  | receiverEnable
  | receiverStatus
  | muxSelect
  /-- The command register of a channel. -/
  | command (channel : UInt32)
  deriving Repr, DecidableEq

namespace Register

/-- The name of the block that a register is in. -/
def base (map : RegisterMap) : Register → String
  | counterHigh | counterLow | loadHigh | loadLow => map.timestamp
  | echoStrobe | echoDone | sentHigh | sentLow | receivedHigh | receivedLow => map.echo
  | transmitters => map.sfp
  | delayAddress | delayCoarse | delayFine | delayPhase | delayUpdate | delayStrobe => map.delay
  | receiverEnable | receiverStatus => map.upstream
  | muxSelect => map.mux
  | command _ => map.commands

/-- The name of a register in its block. -/
def leaf : Register → String
  | counterHigh => "ctr.val_h"
  | counterLow => "ctr.val_l"
  | loadHigh => "ctr.set_h"
  | loadLow => "ctr.set_l"
  | echoStrobe | delayStrobe => "csr.ctrl.go"
  | echoDone => "csr.stat.rx_done"
  | sentHigh => "csr.tx_h"
  | sentLow => "csr.tx_l"
  | receivedHigh => "csr.rx_h"
  | receivedLow => "csr.rx_l"
  | transmitters => "csr.ctrl.tx"
  | delayAddress => "csr.ctrl.addr"
  | delayCoarse => "csr.ctrl.cdel"
  | delayFine => "csr.ctrl.fdel"
  | delayPhase => "csr.ctrl.pdel"
  | delayUpdate => "csr.ctrl.update"
  | receiverEnable => "csr.ctrl.ep_en"
  | receiverStatus => "csr.stat.ep_stat"
  | muxSelect => "csr.ctrl.mux"
  | command channel => s!"chan{channel}.cmd"

/-- The full path of a register. -/
def path (map : RegisterMap) (r : Register) : String := (RegisterBlock.mk (r.base map)).path r.leaf

/-- Whether a register is one of the two strobes. -/
def IsStrobe (r : Register) : Prop := r = echoStrobe ∨ r = delayStrobe

instance (r : Register) : Decidable r.IsStrobe := by
  unfold IsStrobe; infer_instance

/-- The registers other than those of the command channels. -/
def single : List Register :=
  [counterHigh, counterLow, loadHigh, loadLow, echoStrobe, echoDone, sentHigh, sentLow,
    receivedHigh, receivedLow, transmitters, delayAddress, delayCoarse, delayFine, delayPhase,
    delayUpdate, delayStrobe, receiverEnable, receiverStatus, muxSelect]

/-! ### Registers are told apart -/

theorem mem_single_or_command (r : Register) : r ∈ single ∨ ∃ channel, r = command channel := by
  cases r with
  | command channel => exact .inr ⟨channel, rfl⟩
  | _ => exact .inl (by decide)

/-- Two leaves are either apart, or those of the strobes, or of one register. -/
theorem eq_or_strobes_or_apart {r s : Register} (hr : r ∈ single) (hs : s ∈ single) :
    r = s ∨ (r.IsStrobe ∧ s.IsStrobe) ∨ RegisterBlock.Apart r.leaf s.leaf := by
  have hall : ∀ r ∈ single, ∀ s ∈ single,
      r = s ∨ (r.IsStrobe ∧ s.IsStrobe) ∨ RegisterBlock.Apart r.leaf s.leaf := by
    decide
  exact hall r hr s hs

/-- The last part of its leaf tells a command register from the others. -/
theorem apart_command {s : Register} (hs : s ∈ single) (channel : UInt32) :
    RegisterBlock.Apart (command channel).leaf s.leaf := by
  have hall : ∀ s ∈ single, RegisterBlock.Apart ".cmd" s.leaf := by decide
  exact (hall s hs).prepend ("chan" ++ toString channel)

variable {map : RegisterMap}

/-- The strobes have one path only in one block. -/
theorem eq_of_path_echoStrobe (h : echoStrobe.path map = delayStrobe.path map) :
    map.echo = map.delay :=
  congrArg RegisterBlock.base (RegisterBlock.path_injective _ h)

/-- Two registers have one path only if they are the strobes and these are in one block. -/
theorem strobes_of_path_eq {r s : Register} (hne : r ≠ s) (h : r.path map = s.path map) :
    r.IsStrobe ∧ s.IsStrobe ∧ map.echo = map.delay := by
  rcases r.mem_single_or_command with hr | ⟨channel, rfl⟩ <;>
    rcases s.mem_single_or_command with hs | ⟨other, rfl⟩
  · rcases eq_or_strobes_or_apart hr hs with heq | ⟨hrs, hss⟩ | hapart
    · exact absurd heq hne
    · -- Two strobes that differ are the two of them, in either order.
      refine ⟨hrs, hss, ?_⟩
      rcases hrs with rfl | rfl <;> rcases hss with rfl | rfl
      · exact absurd rfl hne
      · exact eq_of_path_echoStrobe h
      · exact eq_of_path_echoStrobe h.symm
      · exact absurd rfl hne
    · exact absurd h (RegisterBlock.path_ne_of_apart hapart _ _)
  · exact absurd h.symm (RegisterBlock.path_ne_of_apart (apart_command hr other) _ _)
  · exact absurd h (RegisterBlock.path_ne_of_apart (apart_command hs channel) _ _)
  · let channels : CommandChannels := { block := ⟨map.commands⟩, count := 0 }
    have hchannel : channel = other := channels.commandPath_injective h
    exact absurd (congrArg command hchannel) hne

theorem path_eq_iff {r s : Register} (hne : r ≠ s) :
    r.path map = s.path map ↔ r.IsStrobe ∧ s.IsStrobe ∧ map.echo = map.delay := by
  refine ⟨strobes_of_path_eq hne, ?_⟩
  have hstrobe : ∀ t : Register, t.IsStrobe → map.echo = map.delay →
      t.path map = echoStrobe.path map := by
    rintro t (rfl | rfl) hblocks
    · rfl
    · simp only [path, base, leaf, hblocks]
  rintro ⟨hr, hs, hblocks⟩
  rw [hstrobe r hr hblocks, hstrobe s hs hblocks]

/-- A block in which an echo is sent whenever delays are programmed. -/
example : echoStrobe.path { RegisterMap.standard with delay := "master.echo" } =
    delayStrobe.path { RegisterMap.standard with delay := "master.echo" } := rfl

end Register

/-! ### All paths are those of registers -/

theorem CommandChannels.within_send (channels : CommandChannels) (command : FixedLengthCommand)
    (channel count : UInt32) :
    (channels.send command channel count).Within (.writing [channels.commandPath channel]) := by
  have hpulses : ∀ n, (pulses (channels.commandPath channel) command.code n).Within
      (.writing [channels.commandPath channel]) := by
    intro n
    induction n with
    | zero => trivial
    | succ n ih =>
      exact (within_write _ List.mem_cons_self).bind fun _ => within_dispatch.bind fun _ => ih
  unfold send
  split
  · exact hpulses count.toNat
  · trivial

/-- Whether the paths of a list are those of registers. -/
def RegisterMap.Lists (map : RegisterMap) (paths : List String) : Prop :=
  ∀ path ∈ paths, ∃ r : Register, path = r.path map

namespace Footprint

variable {footprint other : Footprint} {map : RegisterMap}

/-- Whether a footprint touches nothing but registers. -/
structure Listed (footprint : Footprint) (map : RegisterMap) : Prop where
  reads : map.Lists footprint.reads
  writes : map.Lists footprint.writes

/-- The footprint of given registers is listed. -/
theorem listed_map (reads writes : List Register) :
    Listed { reads := reads.map (Register.path map), writes := writes.map (Register.path map) }
      map := by
  have hlists : ∀ registers : List Register, map.Lists (registers.map (Register.path map)) := by
    intro registers path hpath
    obtain ⟨r, -, rfl⟩ := List.mem_map.mp hpath
    exact ⟨r, rfl⟩
  exact ⟨hlists reads, hlists writes⟩

theorem Listed.union (h : footprint.Listed map) (h' : other.Listed map) :
    (footprint.union other).Listed map where
  reads := List.forall_mem_append.mpr ⟨h.reads, h'.reads⟩
  writes := List.forall_mem_append.mpr ⟨h.writes, h'.writes⟩

theorem Listed.append {first second : List String} (h : (writing first).Listed map)
    (h' : (writing second).Listed map) : (writing (first ++ second)).Listed map where
  reads := h.reads
  writes := List.forall_mem_append.mpr ⟨h.writes, h'.writes⟩

end Footprint

/-- Whether a procedure that starts with nothing queued accesses nothing but registers. -/
def RegisterMap.Accounts {α : Type} (map : RegisterMap) (p : Procedure α) : Prop :=
  ∀ bench : Bench, bench.bus.queue = [] →
    ∀ a ∈ p.commits bench, ∃ r : Register, a.path = r.path map

theorem RegisterMap.accounts_of_within {α : Type} {map : RegisterMap} {p : Procedure α}
    {footprint : Footprint} (hp : p.Within footprint) (h : footprint.Listed map) :
    map.Accounts p := by
  intro bench hidle a ha
  have hcovers := covers_of_mem_commits hp hidle ha
  unfold Footprint.Covers at hcovers
  split at hcovers
  · exact h.reads _ hcovers
  · exact h.writes _ hcovers

namespace Design

variable {design : Design} {map : RegisterMap}

/-- Whether the blocks of a design have the names of a map. -/
structure Uses (design : Design) (map : RegisterMap) : Prop where
  master : ∃ config withUpstream, config.registers = map ∧
    design.master = .ofConfig config withUpstream
  mux : ∀ mux, design.mux = some mux → mux.block = ⟨map.mux⟩

theorem uses_of_build {config : DesignConfig} (h : Registry.standard.build config = .ok design) :
    design.Uses config.registers := by
  obtain ⟨-, -, ⟨withUpstream, hmaster⟩, hmux⟩ := exists_of_build_ok h
  refine ⟨⟨config, withUpstream, rfl, hmaster⟩, fun mux hsome => ?_⟩
  rw [hmux] at hsome
  split at hsome
  · cases hsome
    rfl
  · cases hsome

namespace Uses

variable (h : design.Uses map)
include h

theorem listed_lock : design.lockFootprint.Listed map := by
  obtain ⟨config, withUpstream, rfl, hmaster⟩ := h.master
  rw [lockFootprint, hmaster]
  cases withUpstream with
  | false => exact Footprint.listed_map [] []
  | true => exact Footprint.listed_map [.receiverStatus] [.receiverEnable]

theorem listed_link : design.master.linkFootprint.Listed map := by
  obtain ⟨config, withUpstream, rfl, hmaster⟩ := h.master
  rw [hmaster]
  have hecho : (Master.ofConfig config withUpstream).echo.footprint.Listed config.registers :=
    Footprint.listed_map [.echoDone, .sentHigh, .sentLow, .receivedHigh, .receivedLow]
      [.echoStrobe]
  cases withUpstream with
  | false => exact hecho
  | true => exact (Footprint.listed_map [.receiverStatus] [.receiverEnable]).union hecho

theorem listed_select :
    (Footprint.writing (design.mux.toList.map FanoutMux.selectPath)).Listed map := by
  cases hmux : design.mux with
  | none => exact Footprint.listed_map [] []
  | some mux =>
    have hselect : mux.selectPath = Register.muxSelect.path map := by
      rw [FanoutMux.selectPath, h.mux mux hmux]
      rfl
    rw [Option.toList_some, List.map_singleton, hselect]
    exact Footprint.listed_map [] [.muxSelect]

theorem listed_release (release : Bool) :
    (Footprint.writing (design.releasePaths release)).Listed map := by
  obtain ⟨config, withUpstream, rfl, hmaster⟩ := h.master
  rw [releasePaths, hmaster]
  cases release with
  | false => exact Footprint.listed_map [] []
  | true => exact Footprint.listed_map [] [.transmitters]

theorem listed_delay : (Footprint.writing design.delayPaths).Listed map := by
  obtain ⟨config, withUpstream, rfl, hmaster⟩ := h.master
  rw [delayPaths, hmaster]
  exact Footprint.listed_map []
    [.delayAddress, .delayCoarse, .delayFine, .delayPhase, .delayUpdate, .delayStrobe]

theorem listed_load : (Footprint.writing [design.master.counter.block.path "ctr.set_h",
    design.master.counter.block.path "ctr.set_l"]).Listed map := by
  obtain ⟨config, withUpstream, rfl, hmaster⟩ := h.master
  rw [hmaster]
  exact Footprint.listed_map [] [.loadHigh, .loadLow]

theorem listed_route (controlSfp : Bool) (channel? : Option MuxChannel) :
    (design.routeFootprint controlSfp channel?).Listed map := by
  refine (h.listed_release controlSfp).append ?_
  split
  · exact h.listed_select
  · exact Footprint.listed_map [] []

theorem listed_apply (settings : CalibrationSettings) (measureRtt controlSfp : Bool)
    (channel? : Option MuxChannel) :
    (design.applyFootprint settings measureRtt controlSfp channel?).Listed map := by
  refine Footprint.Listed.union ?_ (h.listed_delay.append (h.listed_release _))
  cases measureRtt with
  | false => exact Footprint.listed_map [] []
  | true => exact h.listed_link.union (h.listed_route controlSfp channel?)

theorem listed_scan : design.scanFootprint.Listed map := h.listed_lock.union h.listed_select

theorem listed_configure : design.configureFootprint.Listed map :=
  (h.listed_load.append h.listed_delay).append (h.listed_release _)

theorem listed_footprint (settings : CalibrationSettings) (call : Call) :
    (call.footprint design settings).Listed map := by
  cases call with
  | measure address controlSfp channel? => exact h.listed_link.union (h.listed_route _ _)
  | measureDirect address controlSfp => exact h.listed_link.union (h.listed_route _ _)
  | apply address delay measureRtt controlSfp channel? => exact h.listed_apply settings _ _ _
  | applyStored endpoint measureRtt => exact h.listed_apply settings _ _ _
  | scan count => exact h.listed_scan
  | switchMux channel waitForLock => exact h.listed_scan
  | configure => exact h.listed_configure

theorem accounts_perform (settings : CalibrationSettings) (call : Call) :
    map.Accounts (call.perform design settings) :=
  RegisterMap.accounts_of_within (design.within_perform settings call)
    (h.listed_footprint settings call)

theorem accounts_read : map.Accounts design.master.counter.read := by
  obtain ⟨config, withUpstream, rfl, hmaster⟩ := h.master
  rw [hmaster]
  exact RegisterMap.accounts_of_within (TimestampCounter.within_read _)
    (Footprint.listed_map [.counterHigh, .counterLow] [])

theorem accounts_sync : map.Accounts design.master.syncCounter := by
  let loaded : List String := [design.master.counter.block.path "ctr.set_h",
    design.master.counter.block.path "ctr.set_l"]
  have hset : ∀ word, (design.master.counter.set word).Within (.writing loaded) := by
    intro word
    rw [TimestampCounter.set_eq]
    exact within_send fun pair hpair => List.mem_map_of_mem (f := Prod.fst) hpair
  refine RegisterMap.accounts_of_within (within_wallClock.bind fun time => ?_) h.listed_load
  exact (within_ofExcept _).bind fun word => (hset word).bind fun _ => trivial

theorem accounts_send (command : FixedLengthCommand) (channel count : UInt32) :
    map.Accounts (design.master.commands.send command channel count) := by
  obtain ⟨config, withUpstream, rfl, hmaster⟩ := h.master
  rw [hmaster]
  exact RegisterMap.accounts_of_within (CommandChannels.within_send _ command channel count)
    (Footprint.listed_map [] [.command channel])

end Uses

end Design

/-! ### No aliases -/

/-- What is known of the registers of a map, whatever the names of its blocks are. -/
structure RegisterMap.Unaliased (map : RegisterMap) : Prop where
  /-- Two registers have one path only if they are the two strobes and these are in one block. -/
  path_eq_iff : ∀ r s : Register, r ≠ s →
    (r.path map = s.path map ↔ r.IsStrobe ∧ s.IsStrobe ∧ map.echo = map.delay)
  /-- The designs that are built from the map use it. -/
  built : ∀ config design, config.registers = map →
    Registry.standard.build config = .ok design → design.Uses map
  /-- The registers are all that is ever accessed by a design that uses the map. -/
  calls : ∀ design : Design, design.Uses map → ∀ settings call,
    map.Accounts (Design.Call.perform design settings call)
  counter : ∀ design : Design, design.Uses map →
    map.Accounts design.master.counter.read ∧ map.Accounts design.master.syncCounter
  commands : ∀ design : Design, design.Uses map → ∀ command channel count,
    map.Accounts (design.master.commands.send command channel count)

/-- Whatever the blocks are called, registers have paths of their own, except that the two strobes
share one if their blocks have one name. -/
theorem RegisterMap.unaliased (map : RegisterMap) : map.Unaliased where
  path_eq_iff _ _ hne := Register.path_eq_iff hne
  built := by
    rintro config design rfl hbuild
    exact Design.uses_of_build hbuild
  calls _ h := h.accounts_perform
  counter _ h := ⟨h.accounts_read, h.accounts_sync⟩
  commands _ h := h.accounts_send

end OpticalTiming
