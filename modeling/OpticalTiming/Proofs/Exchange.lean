import OpticalTiming.Procedure.Block
import OpticalTiming.Proofs.Commits

/-!
# Exchanges with the device

All traffic with a device is made of three kinds of exchanges, each with one dispatch: writes that
are sent together (`Procedure.send`), the read of one register (`RegisterBlock.fetch`) and the read
of several (`RegisterBlock.snapshot`). `Exchange` names the two ways in which an exchange can end:
its dispatch is refused and nothing is committed, or the dispatch commits whatever was queued before
and then the accesses of the exchange. `exchange_send`, `exchange_fetch` and `exchange_snapshot` say
which accesses these are and what comes of them.
-/

namespace OpticalTiming

open Procedure

/-! ### The two ends of an exchange -/

/-- What is known of a bench after a refused dispatch. -/
structure Bench.Refused (bench after : Bench) : Prop where
  queue : after.bus.queue = []
  clock : after.clock = bench.clock
  dispatches : after.bus.dispatches = bench.bus.dispatches
  unfilled : after.bus.unfilled = bench.bus.unfilled
  fault : after.bus.fault = none
  token : after.token = bench.token

/-- What is known of a bench after a successful dispatch. -/
structure Bench.Dispatched (bench after : Bench) : Prop where
  queue : after.bus.queue = []
  clock : after.clock = bench.clock
  dispatches : after.bus.dispatches = bench.bus.dispatches + 1
  unfilled : after.bus.unfilled = bench.bus.unfilled
  fault : after.bus.fault = bench.bus.fault.map Fault.tick
  token : after.token = bench.token.afterDispatch

/-- How an exchange with one dispatch ends: it is refused, or it commits what was queued before and
accesses of its own, of which `Outcome` tells together with the result. -/
inductive Exchange {α : Type} (p : Procedure α) (bench : Bench)
    (Outcome : Except Error α → List Access → Prop) : Prop
  | refused (message : String) (after : Bench)
      (fault : bench.bus.fault = some { remaining := 0, message })
      (run : p.run bench = (.error (.bus message), after))
      (refused : bench.Refused after)
      (commits : p.commits bench = [])
  | committed (result : Except Error α) (accesses : List Access) (after : Bench)
      (fault : ∀ message, bench.bus.fault ≠ some { remaining := 0, message })
      (run : p.run bench = (result, after))
      (dispatched : bench.Dispatched after)
      (commits : p.commits bench = bench.bus.flushed bench.clock ++ accesses)
      (outcome : Outcome result accesses)

/-- The access that a read leaves in the journal. -/
def Access.fetched (number time : Nat) (pair : String × UInt32) : Access where
  dispatch := number
  kind := .read
  path := pair.1
  value := pair.2
  time := time

/-- A bench with more accesses in its queue. -/
def Bench.enqueue (bench : Bench) (queued : List Queued) : Bench :=
  { bench with bus := { bench.bus with queue := bench.bus.queue ++ queued } }

namespace Bus

variable {time : Nat}

@[simp]
theorem flushed_of_queue_nil {bus : Bus} (hqueue : bus.queue = []) : bus.flushed time = [] := by
  rw [flushed, hqueue]
  rfl

theorem entries_append (first second : List Queued) (bus : Bus) :
    entries time bus (first ++ second) =
      entries time bus first ++ entries time (first.foldl (commit time) bus) second := by
  induction first generalizing bus with
  | nil => rfl
  | cons queued rest ih =>
    rw [List.cons_append, entries, ih, entries, List.cons_append, List.foldl_cons]

/-- What is committed before an access does not depend on what is queued after it. -/
theorem flushed_append (bus : Bus) (more : List Queued) :
    ({ bus with queue := bus.queue ++ more } : Bus).flushed time =
      bus.flushed time ++ entries time (bus.flush time) more :=
  entries_append bus.queue more _

end Bus

/-! ### Writes that are sent together -/

namespace Procedure

/-- Writes registers in order, all in one dispatch with what is queued already. -/
def send (pairs : List (String × UInt32)) : Procedure Unit := do
  pairs.forM fun pair => write pair.1 pair.2
  dispatch

theorem run_forM_write (pairs : List (String × UInt32)) (bench : Bench) :
    (pairs.forM fun pair => write pair.1 pair.2).run bench =
      (.ok (), bench.enqueue (pairs.map .ofPair)) := by
  induction pairs generalizing bench with
  | nil =>
    rw [List.map_nil, Bench.enqueue, List.append_nil]
    rfl
  | cons pair rest ih =>
    show (write pair.1 pair.2 >>= fun _ => rest.forM fun pair => write pair.1 pair.2).run bench = _
    rw [run_bind, run_write]
    refine (ih _).trans ?_
    simp only [Bench.enqueue, Bus.write, List.append_assoc]
    rfl

theorem run_send (pairs : List (String × UInt32)) (bench : Bench) :
    (send pairs).run bench = (bench.enqueue (pairs.map .ofPair)).dispatch := by
  rw [send, run_bind, run_forM_write]
  exact run_dispatch _

/-- Sent writes are committed together, in order. -/
theorem exchange_send (pairs : List (String × UInt32)) (bench : Bench) :
    Exchange (send pairs) bench fun result accesses =>
      result = .ok () ∧
        accesses = pairs.map (.written (bench.bus.dispatches + 1) bench.clock) := by
  have hrun := run_send pairs bench
  rcases (bench.enqueue (pairs.map .ofPair)).dispatch_cases with
    ⟨message, hfault, hdispatch⟩ | ⟨hnone, hdispatch⟩
  · rw [hdispatch] at hrun
    refine .refused message _ hfault hrun ⟨rfl, rfl, rfl, rfl, rfl, rfl⟩ (commits_eq ?_)
    rw [hrun, List.append_nil]
    rfl
  · rw [hdispatch] at hrun
    refine .committed _ _ _ hnone hrun ⟨Bench.queue_dispatched _, rfl,
      Bench.dispatches_dispatched _, Bench.unfilled_dispatched _, rfl, rfl⟩ (commits_eq ?_)
      ⟨rfl, rfl⟩
    rw [hrun]
    refine (Bench.journal_dispatched _).trans (congrArg (bench.bus.journal ++ ·) ?_)
    refine (Bus.flushed_append bench.bus _).trans (congrArg (_ ++ ·) ?_)
    rw [Bus.entries_writes, Bus.dispatches_flush]
    rfl

/-- Writes that were sent with success were committed. -/
theorem dispatched_of_send_ok {pairs : List (String × UInt32)} {bench after : Bench}
    (h : (send pairs).run bench = (.ok (), after)) :
    bench.Dispatched after ∧
      (send pairs).commits bench = bench.bus.flushed bench.clock ++
        pairs.map (.written (bench.bus.dispatches + 1) bench.clock) := by
  cases exchange_send pairs bench with
  | refused message _ fault run =>
    rw [run] at h
    cases h
  | committed result accesses _ fault run dispatched commits outcome =>
    rw [run] at h
    cases h
    rw [commits, outcome.2]
    exact ⟨dispatched, rfl⟩

end Procedure

/-! ### Reads of a block -/

namespace RegisterBlock

/-- The handles that reads of leaves hand out when the next free slot is `index`. -/
def handles (block : RegisterBlock) : (index : Nat) → List String → List (String × Handle)
  | _, [] => []
  | index, leaf :: rest =>
    (leaf, { path := block.path leaf, index }) :: block.handles (index + 1) rest

/-- The accesses that reads of leaves queue when the next free slot is `index`. -/
def queuedReads (block : RegisterBlock) (unfilled : List String) :
    (index : Nat) → List String → List Queued
  | _, [] => []
  | index, leaf :: rest =>
    .read (block.path leaf) (if unfilled.contains (block.path leaf) then none else some index) ::
      block.queuedReads unfilled (index + 1) rest

/-- A bench that waits to carry out reads of leaves. -/
def reading (block : RegisterBlock) (bench : Bench) (leaves : List String) : Bench :=
  { bench with
    bus :=
      { bench.bus with
        queue :=
          bench.bus.queue ++ block.queuedReads bench.bus.unfilled bench.bus.slots.size leaves
        slots := bench.bus.slots ++ Array.replicate leaves.length none } }

theorem run_readAll (block : RegisterBlock) (leaves : List String) (bench : Bench) :
    (block.readAll leaves).run bench =
      (.ok (block.handles bench.bus.slots.size leaves), block.reading bench leaves) := by
  induction leaves generalizing bench with
  | nil =>
    simp only [reading, queuedReads, List.append_nil, List.length_nil, Array.replicate_zero,
      Array.append_empty]
    rfl
  | cons leaf rest ih =>
    show (block.readAll rest >>= fun handles =>
      done ((leaf, (bench.bus.read (block.path leaf)).1) :: handles)).run
        { bench with bus := (bench.bus.read (block.path leaf)).2 } = _
    rw [run_bind_of_ok (ih _), run_done]
    simp only [Bus.read, Array.size_push, reading, handles, queuedReads, List.length_cons,
      List.append_assoc, List.singleton_append]
    rw [Array.push_eq_append, Array.append_assoc, Array.replicate_succ']

/-- The registers of leaves with values. -/
def withValues (block : RegisterBlock) (leaves : List String) (values : List UInt32) :
    List (String × UInt32) :=
  (leaves.map block.path).zip values

theorem le_of_mem_queuedReads {block : RegisterBlock} {unfilled leaves : List String}
    {index i : Nat} {path : String}
    (h : .read path (some i) ∈ block.queuedReads unfilled index leaves) : index ≤ i := by
  induction leaves generalizing index with
  | nil => cases h
  | cons leaf rest ih =>
    rcases List.mem_cons.mp h with heq | hrest
    · rw [Queued.read.injEq] at heq
      split at heq
      · cases heq.2
      · exact Nat.le_of_eq (Option.some.inj heq.2).symm
    · exact Nat.le_of_succ_le (ih hrest)

/-- Reads into free slots leave their values in the journal, in order, and in the slots of the
registers that are not left unfilled. -/
theorem commit_reads (block : RegisterBlock) (leaves : List String) (time : Nat) {bus : Bus}
    {index : Nat}
    (hfree : ∀ i, index ≤ i → i < index + leaves.length → bus.slots[i]? = some none) :
    ∃ values : List UInt32, values.length = leaves.length ∧
      Bus.entries time bus (block.queuedReads bus.unfilled index leaves) =
        (block.withValues leaves values).map (.fetched bus.dispatches time) ∧
      ∀ i (hi : i < leaves.length),
        ((block.queuedReads bus.unfilled index leaves).foldl (Bus.commit time) bus).slots[
            index + i]? =
          some (if bus.unfilled.contains (block.path leaves[i]) then none else values[i]?) := by
  induction leaves generalizing bus index with
  | nil => exact ⟨[], rfl, rfl, fun i hi => absurd hi (Nat.not_lt_zero i)⟩
  | cons leaf rest ih =>
    have hhead : bus.slots[index]? = some none := by
      apply hfree index (Nat.le_refl _)
      rw [List.length_cons]
      omega
    generalize hslot : (if bus.unfilled.contains (block.path leaf) then none else some index) = slot
    generalize hnext : Bus.commit time bus (.read (block.path leaf) slot) = next
    -- The first read is for no slot but its own, so the slots of the others are still free.
    have hother : ∀ i, index + 1 ≤ i → next.slots[i]? = bus.slots[i]? := by
      intro i hi
      rw [← hnext]
      apply Bus.slots_commit_other
      intro path heq
      rw [Queued.read.injEq, ← hslot] at heq
      split at heq
      · cases heq.2
      · have := Option.some.inj heq.2
        omega
    have hfree' : ∀ i, index + 1 ≤ i → i < index + 1 + rest.length →
        next.slots[i]? = some none := by
      intro i hlow hhigh
      rw [hother i hlow]
      exact hfree i (by omega) (by rw [List.length_cons]; omega)
    have hunfilled : next.unfilled = bus.unfilled := by rw [← hnext]; rfl
    have hnumber : next.dispatches = bus.dispatches := by rw [← hnext]; rfl
    obtain ⟨values, hlength, hentries, hslots⟩ := ih hfree'
    rw [hunfilled] at hentries hslots
    rw [hnumber] at hentries
    refine ⟨bus.nextRead (block.path leaf) :: values, congrArg Nat.succ hlength, ?_, ?_⟩
    · rw [queuedReads, Bus.entries, hslot, hnext, hentries]
      rfl
    · intro i hi
      rw [queuedReads, List.foldl_cons, hslot, hnext]
      cases i with
      | zero =>
        -- The later reads are for later slots, so the slot of the first one is as it left it.
        rw [Nat.add_zero, Bus.slots_foldl_other fun path hmem =>
          absurd (le_of_mem_queuedReads hmem) (by omega), ← hnext, ← hslot]
        simp only [List.getElem_cons_zero, List.getElem?_cons_zero]
        split
        · rw [Bus.slots_commit_other fun path heq => by cases heq]
          exact hhead
        · exact Bus.slots_commit_read hhead _
      | succ i =>
        rw [← Nat.add_assoc, Nat.add_right_comm]
        exact hslots i (Nat.lt_of_succ_lt_succ hi)

/-- The first of a list of leaves whose register is left unfilled. -/
def unfilledLeaf? (block : RegisterBlock) (unfilled leaves : List String) : Option String :=
  leaves.find? fun leaf => unfilled.contains (block.path leaf)

theorem run_value_of_slot (handle : Handle) {bench : Bench} {empty : Bool} {value : UInt32}
    (h : bench.bus.slots[handle.index]? = some (if empty then none else some value)) :
    (Procedure.value handle).run bench =
      (if empty then .error (.notDispatched handle.path) else .ok value, bench) := by
  rw [run_value, Bus.value, h]
  cases empty <;> rfl

/-- Collecting stops at the first handle without a value. -/
theorem run_collect (block : RegisterBlock) (leaves : List String) (values : List UInt32)
    (hlength : values.length = leaves.length) {index : Nat} {bench : Bench}
    (hslots : ∀ i (hi : i < leaves.length), bench.bus.slots[index + i]? =
      some (if bench.bus.unfilled.contains (block.path leaves[i]) then none else values[i]?))
    (map : NameMap UInt32) :
    (collect map (block.handles index leaves)).run bench =
      (match block.unfilledLeaf? bench.bus.unfilled leaves with
        | some leaf => .error (.notDispatched (block.path leaf))
        | none => .ok (RegisterFile.storeAll map (leaves.zip values)), bench) := by
  induction leaves generalizing values index map with
  | nil => rfl
  | cons leaf rest ih =>
    -- The first handle decides whether the collection ends here or goes on with the others.
    obtain ⟨value, values, rfl⟩ := List.exists_cons_of_length_eq_add_one hlength
    have hhead := hslots 0 (Nat.zero_lt_succ _)
    simp only [Nat.add_zero, List.getElem_cons_zero, List.getElem?_cons_zero] at hhead
    have hread := run_value_of_slot { path := block.path leaf, index } hhead
    rw [handles, collect, unfilledLeaf?, List.find?_cons]
    split at hread
    case isTrue h =>
      rw [run_bind_of_error hread, h]
    case isFalse h =>
      rw [run_bind_of_ok hread]
      simp only [h]
      refine ih values (Nat.succ.inj hlength) (fun i hi => ?_) _
      have := hslots (i + 1) (Nat.succ_lt_succ hi)
      rwa [← Nat.add_assoc, Nat.add_right_comm] at this

/-- Dispatching the reads of leaves, behind what was queued before. -/
theorem dispatch_reading (block : RegisterBlock) (leaves : List String) {bench : Bench}
    (hallotted : bench.bus.Allotted) :
    (∃ message after, bench.bus.fault = some { remaining := 0, message } ∧
      (block.reading bench leaves).dispatch = (.error (.bus message), after) ∧
      bench.Refused after ∧ after.bus.journal = bench.bus.journal) ∨
    ((∀ message, bench.bus.fault ≠ some { remaining := 0, message }) ∧ ∃ values after,
      (block.reading bench leaves).dispatch = (.ok (), after) ∧ bench.Dispatched after ∧
      values.length = leaves.length ∧
      after.bus.journal = bench.bus.journal ++ (bench.bus.flushed bench.clock ++
        (block.withValues leaves values).map
          (.fetched (bench.bus.dispatches + 1) bench.clock)) ∧
      ∀ i (hi : i < leaves.length), after.bus.slots[bench.bus.slots.size + i]? =
        some (if bench.bus.unfilled.contains (block.path leaves[i]) then none
          else values[i]?)) := by
  rcases (block.reading bench leaves).dispatch_cases with ⟨message, hfault, h⟩ | ⟨hnone, h⟩
  · exact Or.inl ⟨message, _, hfault, h, ⟨rfl, rfl, rfl, rfl, rfl, rfl⟩, rfl⟩
  · right
    let start : Bus :=
      { (block.reading bench leaves).bus with
        queue := []
        dispatches := bench.bus.dispatches + 1 }
    let reached : Bus := bench.bus.queue.foldl (Bus.commit bench.clock) start
    have hunfilled : reached.unfilled = bench.bus.unfilled :=
      Bus.foldl_commit_eq Bus.unfilled (fun _ queued => by cases queued <;> rfl) _ _
    have hnumber : reached.dispatches = bench.bus.dispatches + 1 :=
      Bus.foldl_commit_eq Bus.dispatches (fun _ queued => by cases queued <;> rfl) _ _
    -- The reads have just been handed their slots, so nothing that was queued before fills these.
    have hfree : ∀ i, bench.bus.slots.size ≤ i → i < bench.bus.slots.size + leaves.length →
        reached.slots[i]? = some none := by
      intro i hlow hhigh
      have hkept : reached.slots[i]? = start.slots[i]? := Bus.slots_foldl_other fun path hmem =>
        absurd (hallotted path i hmem) (Nat.not_lt.mpr hlow)
      rw [hkept]
      show (bench.bus.slots ++ Array.replicate leaves.length none)[i]? = some none
      rw [Array.getElem?_append_right hlow, Array.getElem?_replicate]
      exact if_pos (by omega)
    obtain ⟨values, hlength, hentries, hslots⟩ := block.commit_reads leaves bench.clock hfree
    rw [hunfilled] at hentries hslots
    rw [hnumber] at hentries
    have hbefore : Bus.entries bench.clock start bench.bus.queue = bench.bus.flushed bench.clock :=
      bench.bus.flushed_withSlots bench.clock start.slots
    refine ⟨hnone, values, _, h, ⟨Bench.queue_dispatched _, rfl, Bench.dispatches_dispatched _,
      Bench.unfilled_dispatched _, rfl, rfl⟩, hlength, ?_, ?_⟩
    · refine (Bench.journal_dispatched _).trans (congrArg (bench.bus.journal ++ ·) ?_)
      rw [← hentries, ← hbefore]
      exact Bus.entries_append _ _ start
    · intro i hi
      refine Eq.trans ?_ (hslots i hi)
      show ((bench.bus.queue ++ _).foldl (Bus.commit bench.clock) start).slots[_]? = _
      rw [List.foldl_append]

/-- A procedure that queues reads of leaves, dispatches them and then only looks at the values is an
exchange. -/
theorem exchange_of_reading (block : RegisterBlock) (leaves : List String) {bench : Bench}
    (hallotted : bench.bus.Allotted) {α : Type} {p : Procedure α} {rest : Unit → Procedure α}
    {Outcome : Except Error α → List Access → Prop}
    (hstart : p.run bench = (dispatch >>= rest).run (block.reading bench leaves))
    (hrest : ∀ (values : List UInt32) (after : Bench), bench.Dispatched after →
      values.length = leaves.length →
      (∀ i (hi : i < leaves.length), after.bus.slots[bench.bus.slots.size + i]? =
        some (if bench.bus.unfilled.contains (block.path leaves[i]) then none else values[i]?)) →
      ∃ result, (rest ()).run after = (result, after) ∧
        Outcome result ((block.withValues leaves values).map
          (.fetched (bench.bus.dispatches + 1) bench.clock))) :
    Exchange p bench Outcome := by
  rcases block.dispatch_reading leaves hallotted with
    ⟨message, after, hfault, h, hrefused, hjournal⟩ |
    ⟨hnone, values, after, h, hdispatched, hlength, hjournal, hslots⟩
  · have hrun := hstart.trans (run_bind_of_error ((run_dispatch _).trans h) _)
    refine .refused message after hfault hrun hrefused (commits_eq ?_)
    rw [hrun, List.append_nil]
    exact hjournal
  · obtain ⟨result, hvalues, houtcome⟩ := hrest values after hdispatched hlength hslots
    have hrun := (hstart.trans (run_bind_of_ok ((run_dispatch _).trans h) _)).trans hvalues
    refine .committed _ _ after hnone hrun hdispatched (commits_eq ?_) houtcome
    rw [hrun]
    exact hjournal

theorem run_read_leaf (block : RegisterBlock) (leaf : String) (bench : Bench) :
    (block.read leaf).run bench =
      (.ok { path := block.path leaf, index := bench.bus.slots.size },
        block.reading bench [leaf]) := by
  simp only [reading, queuedReads, List.length_singleton, Array.replicate_one,
    ← Array.push_eq_append]
  rfl

/-- The read of one register: its value is the journaled one, unless the register is left
unfilled. -/
theorem exchange_fetch (block : RegisterBlock) (leaf : String) {bench : Bench}
    (hqueue : bench.bus.queue = []) :
    Exchange (block.fetch leaf) bench fun result accesses => ∃ value,
      accesses = [.fetched (bench.bus.dispatches + 1) bench.clock (block.path leaf, value)] ∧
      result = if bench.bus.unfilled.contains (block.path leaf) then
        .error (.notDispatched (block.path leaf)) else .ok value := by
  have hstart : (block.fetch leaf).run bench =
      (dispatch >>= fun _ => Procedure.value
        { path := block.path leaf, index := bench.bus.slots.size }).run
        (block.reading bench [leaf]) :=
    run_bind_of_ok (block.run_read_leaf leaf bench) _
  refine block.exchange_of_reading [leaf] (Bus.allotted_of_queue_nil hqueue) hstart
    fun values after _ hlength hslots => ?_
  obtain ⟨value, rfl⟩ := List.length_eq_one_iff.mp hlength
  have hslot := hslots 0 Nat.one_pos
  exact ⟨_, run_value_of_slot _ hslot, value, rfl, rfl⟩

/-- The result of reading `values` from leaves: a snapshot, unless a register is left unfilled. -/
def snapshotOf (block : RegisterBlock) (unfilled leaves : List String) (values : List UInt32) :
    Except Error Snapshot :=
  match block.unfilledLeaf? unfilled leaves with
  | some leaf => .error (.notDispatched (block.path leaf))
  | none => .ok { values := RegisterFile.storeAll .empty (leaves.zip values) }

/-- The read of several registers in one dispatch: their values are the journaled ones, unless one
of the registers is left unfilled. -/
theorem exchange_snapshot (block : RegisterBlock) (leaves : List String) {bench : Bench}
    (hqueue : bench.bus.queue = []) :
    Exchange (block.snapshot leaves) bench fun result accesses => ∃ values,
      values.length = leaves.length ∧
      accesses = (block.withValues leaves values).map
        (.fetched (bench.bus.dispatches + 1) bench.clock) ∧
      result = block.snapshotOf bench.bus.unfilled leaves values := by
  have hstart : (block.snapshot leaves).run bench =
      (dispatch >>= fun _ => collect .empty (block.handles bench.bus.slots.size leaves) >>=
        fun values => done { values }).run (block.reading bench leaves) :=
    run_bind_of_ok (block.run_readAll leaves bench) _
  refine block.exchange_of_reading leaves (Bus.allotted_of_queue_nil hqueue) hstart
    fun values after hdispatched hlength hslots => ?_
  rw [← hdispatched.unfilled] at hslots
  have hcollect := block.run_collect leaves values hlength hslots .empty
  rw [hdispatched.unfilled] at hcollect
  refine ⟨block.snapshotOf bench.bus.unfilled leaves values, ?_, values, hlength, rfl, rfl⟩
  rw [snapshotOf]
  split at hcollect
  · exact run_bind_of_error hcollect _
  · exact run_bind_of_ok hcollect _

end RegisterBlock

end OpticalTiming
