import Mathlib.Data.List.Basic
import OpticalTiming.Proofs.Issuing
import OpticalTiming.Proofs.RegisterPath
import OpticalTiming.Proofs.Sparing

/-!
# The halves of the counter belong together

The counter has 64 bits and travels as two registers. Loading it sends both halves in one dispatch,
and reading it takes both from one (`exchange_read`), so no value is torn: `untorn` says so of every
register space, also if other accesses are queued and if the dispatch is refused.

A device that `Latches` copies what is loaded to the registers that are read. A value that is loaded
there comes back whatever traffic is in between, as long as that leaves the two registers alone:
after the load they show the halves (`shown_of_latches`), they go on doing so
(`Bus.SparedBy.shows`), and a read then finds them (`exchange_read_shown`).
-/

namespace OpticalTiming

open Procedure

/-- Whether a hook copies what is written to another register, and changes nothing else. -/
def Hook.Copies (hook : Hook) (target : String) : Prop :=
  ∀ past stimulus path, (hook past stimulus).get? path =
    if path = target then some stimulus.value else stimulus.registers.get? path

namespace Bus

variable {bus : Bus} {time : Nat}

/-- The registers after a write to one whose only hook copies the value. -/
theorem get?_commitWrite_of_copies {key target : String} {hook : Hook}
    (honly : bus.reacts key = [hook]) (hcopies : hook.Copies target) (value : UInt32)
    (path : String) :
    (bus.commitWrite time key value).registers.get? path =
      if path = target ∨ path = key then some value else bus.registers.get? path := by
  obtain ⟨attached, hhooks, hreact⟩ := List.map_eq_singleton_iff.mp honly
  have hfire : (bus.commitWrite time key value).registers =
      hook attached.past { value, registers := bus.registers.set key value } := by
    unfold commitWrite
    rw [hhooks, ← hreact]
    rfl
  rw [hfire, hcopies, NameMap.get?_set]
  by_cases htarget : path = target
  · simp [htarget]
  · simp [htarget]

/-- Whether a use arranges for a dispatch to fail or for handles to be left unfilled. -/
def Use.meddles : Use → Bool
  | call (.failAfter _ _) => true
  | call (.leaveUnfilled _) => true
  | _ => false

/-- Without such a use, no failure comes up, and no other handles are left unfilled. -/
theorem Use.act_of_not_meddles {use : Use} (h : use.meddles = false) (hfault : bus.fault = none) :
    (use.act bus).fault = none ∧ (use.act bus).unfilled = bus.unfilled := by
  rcases use with operation | _
  · cases operation with
    | failAfter successful message => cases h
    | leaveUnfilled paths => cases h
    | dispatch time =>
      show (bus.dispatch time).2.fault = none ∧ (bus.dispatch time).2.unfilled = bus.unfilled
      rw [dispatch, hfault]
      have hkept : (bus.flush time).fault = bus.fault :=
        foldl_commit_eq fault (fun _ queued => by cases queued <;> rfl) _ _
      exact ⟨hkept.trans hfault, unfilled_flush bus⟩
    | _ => exact ⟨hfault, rfl⟩
  · exact ⟨hfault, rfl⟩

theorem foldl_act_of_not_meddles {uses : List Use} (h : ∀ use ∈ uses, use.meddles = false)
    (hfault : bus.fault = none) :
    (uses.foldl Use.act bus).fault = none ∧ (uses.foldl Use.act bus).unfilled = bus.unfilled := by
  induction uses generalizing bus with
  | nil => exact ⟨hfault, rfl⟩
  | cons use rest ih =>
    obtain ⟨hnone, hunfilled⟩ := use.act_of_not_meddles (h use List.mem_cons_self) hfault
    obtain ⟨hlast, hrest⟩ := ih (fun other hmem => h other (List.mem_cons_of_mem _ hmem)) hnone
    exact ⟨hlast, hrest.trans hunfilled⟩

end Bus

namespace Procedure

variable {bench : Bench}

/-- Without a failure to come, writes that are sent together are dispatched. -/
theorem run_send_of_fault_none (pairs : List (String × UInt32)) (hfault : bench.bus.fault = none) :
    (send pairs).run bench = (.ok (), (bench.enqueue (pairs.map .ofPair)).dispatched) := by
  have hdispatch := (bench.enqueue (pairs.map .ofPair)).answer_dispatch_of_fault_none hfault
  exact (run_send pairs bench).trans hdispatch

end Procedure

namespace TimestampCounter

variable {counter : TimestampCounter} {bench : Bench} {bus : Bus}

/-- The register of the upper half. -/
def highPath (counter : TimestampCounter) : String := counter.block.path "ctr.val_h"

/-- The register of the lower half. -/
def lowPath (counter : TimestampCounter) : String := counter.block.path "ctr.val_l"

/-- The registers that are read, with the halves of a value. -/
def shown (counter : TimestampCounter) (word : TimestampWord) : List (String × UInt32) :=
  [(counter.highPath, word.high), (counter.lowPath, word.low)]

/-- What comes of reading two halves: the value that they make up, unless one of the registers is
left unfilled. The first such register is reported. -/
def joined (counter : TimestampCounter) (unfilled : List String) (high low : UInt32) :
    Except Error TimestampWord :=
  if unfilled.contains counter.highPath then .error (.notDispatched counter.highPath)
  else if unfilled.contains counter.lowPath then .error (.notDispatched counter.lowPath)
  else .ok (.ofHalves high low)

/-! ### Reading -/

/-- A read takes both halves from one dispatch, behind whatever was queued before. -/
theorem exchange_read (counter : TimestampCounter) (hallotted : bench.bus.Allotted) :
    Exchange counter.read bench fun result accesses => ∃ high low,
      accesses = [.fetched (bench.bus.dispatches + 1) bench.clock (counter.highPath, high),
        .fetched (bench.bus.dispatches + 1) bench.clock (counter.lowPath, low)] ∧
      result = counter.joined bench.bus.unfilled high low := by
  let upper : Handle := { path := counter.highPath, index := bench.bus.slots.size }
  let lower : Handle := { path := counter.lowPath, index := bench.bus.slots.size + 1 }
  have hstart : counter.read.run bench =
      (dispatch >>= fun _ => do
        let high ← Procedure.value upper
        let low ← Procedure.value lower
        pure (.ofHalves high low)).run
          (counter.block.reading bench ["ctr.val_h", "ctr.val_l"]) := by
    refine (run_bind_of_ok (counter.block.run_read_leaf "ctr.val_h" bench) _).trans ?_
    refine (run_bind_of_ok (counter.block.run_read_leaf "ctr.val_l" _) _).trans ?_
    have hreading : counter.block.reading (counter.block.reading bench ["ctr.val_h"])
        ["ctr.val_l"] = counter.block.reading bench ["ctr.val_h", "ctr.val_l"] := by
      have hslots : (bench.bus.slots.push none).push none =
          bench.bus.slots ++ Array.replicate 2 none := Array.toList_inj.mp (by simp)
      simp [RegisterBlock.reading, RegisterBlock.queuedReads, hslots]
    have hsize : (counter.block.reading bench ["ctr.val_h"]).bus.slots.size =
        bench.bus.slots.size + 1 := by
      simp [RegisterBlock.reading]
    rw [hreading, hsize]
    rfl
  refine counter.block.exchange_of_reading _ hallotted hstart
    fun values after _ hlength hslots => ?_
  obtain ⟨high, low, rfl⟩ := List.length_eq_two.mp hlength
  have hupper : (Procedure.value upper).run after =
      (if bench.bus.unfilled.contains counter.highPath then
        .error (.notDispatched counter.highPath) else .ok high, after) :=
    RegisterBlock.run_value_of_slot upper (hslots 0 (by decide))
  have hlower : (Procedure.value lower).run after =
      (if bench.bus.unfilled.contains counter.lowPath then
        .error (.notDispatched counter.lowPath) else .ok low, after) :=
    RegisterBlock.run_value_of_slot lower (hslots 1 (by decide))
  refine ⟨counter.joined bench.bus.unfilled high low, ?_, high, low, rfl, rfl⟩
  unfold joined
  -- The upper half is asked for first, so the lower one counts only if that is there.
  split at hupper
  case isTrue hmem =>
    rw [if_pos hmem]
    exact run_bind_of_error hupper _
  case isFalse hmem =>
    rw [if_neg hmem]
    refine (run_bind_of_ok hupper _).trans ?_
    split at hlower
    case isTrue hmem =>
      rw [if_pos hmem]
      exact run_bind_of_error hlower _
    case isFalse hmem =>
      rw [if_neg hmem]
      exact run_bind_of_ok hlower _

theorem within_read (counter : TimestampCounter) :
    counter.read.Within { reads := [counter.highPath, counter.lowPath], writes := [] } := by
  have hupper : counter.highPath ∈ [counter.highPath, counter.lowPath] := List.mem_cons_self
  have hlower : counter.lowPath ∈ [counter.highPath, counter.lowPath] :=
    List.mem_cons_of_mem _ List.mem_cons_self
  refine (Procedure.within_read hupper).bind fun high => ?_
  refine (Procedure.within_read hlower).bind fun low => ?_
  refine within_dispatch.bind fun _ => ?_
  exact (within_value high).bind fun _ => (within_value low).bind fun _ => trivial

/-- Where the registers show the halves of a value, a read finds them. -/
theorem exchange_read_shown {word : TimestampWord} {written : String → Prop}
    (hallotted : bench.bus.Allotted) (hshows : bench.bus.Shows (counter.shown word) written) :
    Exchange counter.read bench fun result accesses =>
      accesses = (counter.shown word).map (.fetched (bench.bus.dispatches + 1) bench.clock) ∧
      result = counter.joined bench.bus.unfilled word.high word.low := by
  -- The read writes nothing, so what the registers show lasts up to its dispatch.
  have hreads := (shows_run counter.within_read (fun _ hmem => (by cases hmem)) hshows).2
  cases counter.exchange_read hallotted with
  | refused message after fault run refused commits =>
    exact .refused message after fault run refused commits
  | committed result accesses after due run dispatched commits outcome =>
    obtain ⟨high, low, rfl, rfl⟩ := outcome
    rw [commits] at hreads
    have hhigh : high = word.high :=
      hreads _ (List.mem_append_right _ List.mem_cons_self) rfl _ List.mem_cons_self
    have hlow : low = word.low :=
      hreads _ (List.mem_append_right _ (List.mem_cons_of_mem _ List.mem_cons_self)) rfl _
        (List.mem_cons_of_mem _ List.mem_cons_self)
    rw [hhigh, hlow] at run commits
    exact .committed _ _ after due run dispatched commits ⟨rfl, rfl⟩

/-! ### Loading -/

/-- Whether a device copies what is loaded to the registers that are read, and has no other hooks on
the registers that are loaded and no scripts for those that are read. -/
structure Latches (counter : TimestampCounter) (bus : Bus) : Prop where
  high : ∃ hook, bus.reacts (counter.block.path "ctr.set_h") = [hook] ∧
    hook.Copies counter.highPath
  low : ∃ hook, bus.reacts (counter.block.path "ctr.set_l") = [hook] ∧
    hook.Copies counter.lowPath
  unscripted : bus.script counter.highPath = [] ∧ bus.script counter.lowPath = []

/-- On such a device a load leaves its halves in the registers that are read. -/
theorem shown_of_latches (h : counter.Latches bus) (word : TimestampWord) (time : Nat) :
    let next := ((counter.load word).map Queued.ofPair).foldl (Bus.commit time) bus
    (∀ pair ∈ counter.shown word, next.registers.get? pair.1 = some pair.2) ∧
      ∀ pair ∈ counter.shown word, next.script pair.1 = [] := by
  obtain ⟨upper, hupper, hhigh⟩ := h.high
  obtain ⟨lower, hlower, hlow⟩ := h.low
  let middle := bus.commitWrite time (counter.block.path "ctr.set_h") word.high
  have hlower' : middle.reacts (counter.block.path "ctr.set_l") = [lower] :=
    (Bus.reacts_commitWrite bus time _ _ _).trans hlower
  have happart : counter.highPath ≠ counter.lowPath :=
    RegisterBlock.path_ne_of_apart (by decide) _ _
  have hset : counter.highPath ≠ counter.block.path "ctr.set_l" :=
    RegisterBlock.path_ne_of_apart (by decide) _ _
  refine ⟨fun pair hpair => ?_, fun pair hpair => ?_⟩
  · show (middle.commitWrite time (counter.block.path "ctr.set_l") word.low).registers.get? _ = _
    rw [Bus.get?_commitWrite_of_copies hlower' hlow]
    rcases List.mem_pair.mp hpair with rfl | rfl
    · -- Loading the lower half does not touch the upper one.
      rw [if_neg (by simp [happart, hset]), Bus.get?_commitWrite_of_copies hupper hhigh]
      exact if_pos (Or.inl rfl)
    · exact if_pos (Or.inl rfl)
  · rcases List.mem_pair.mp hpair with rfl | rfl
    · exact h.unscripted.1
    · exact h.unscripted.2

/-- A load that is dispatched alone leaves its halves in the registers that are read. -/
theorem exists_loaded (hready : bench.Ready) (hlatches : counter.Latches bench.bus)
    (word : TimestampWord) :
    ∃ after, (counter.set word).run bench = (.ok (), after) ∧ bench.Dispatched after ∧
      (∀ pair ∈ counter.shown word, after.bus.registers.get? pair.1 = some pair.2) ∧
      ∀ pair ∈ counter.shown word, after.bus.script pair.1 = [] := by
  let start : Bus := { bench.bus with queue := [], dispatches := bench.bus.dispatches + 1 }
  let loading : Bench := bench.enqueue ((counter.load word).map .ofPair)
  -- Nothing was queued before, so the dispatch commits the load and nothing else.
  have hflush : loading.bus.flush bench.clock =
      ((counter.load word).map Queued.ofPair).foldl (Bus.commit bench.clock) start := by
    show (bench.bus.queue ++ _).foldl _ _ = _
    rw [hready.queue, List.nil_append]
    rfl
  have hstart : counter.Latches start := ⟨hlatches.high, hlatches.low, hlatches.unscripted⟩
  have hshown := shown_of_latches hstart word bench.clock
  rw [← hflush] at hshown
  obtain ⟨after, hsend, hdispatched, -⟩ := run_send_of_healthy (counter.load word) hready.fault
  have hafter : after = loading.dispatched := by
    have hrun := run_send_of_fault_none (counter.load word) hready.fault
    exact congrArg Prod.snd (hsend.symm.trans hrun)
  subst hafter
  exact ⟨_, hsend, hdispatched, hshown⟩

/-- What is known of loading and reading a counter on a bench. -/
structure Untorn (counter : TimestampCounter) (bench : Bench) : Prop where
  /-- A load writes both halves in one dispatch, behind what was queued before. -/
  sets : ∀ word, Exchange (counter.set word) bench fun result accesses =>
    result = .ok () ∧
      accesses = (counter.load word).map (.written (bench.bus.dispatches + 1) bench.clock)
  /-- Where nothing is queued and no failure is to come, these writes are all that is committed. -/
  loads : bench.Ready → ∀ word, ∃ after, (counter.set word).run bench = (.ok (), after) ∧
    (counter.set word).commits bench =
      (counter.load word).map (.written (bench.bus.dispatches + 1) bench.clock)
  /-- A read takes both halves from one dispatch, behind what was queued before, and its value is
  made up of what is journaled for them. -/
  reads : Exchange counter.read bench fun result accesses => ∃ high low : UInt32,
    accesses = [.fetched (bench.bus.dispatches + 1) bench.clock (counter.highPath, high),
      .fetched (bench.bus.dispatches + 1) bench.clock (counter.lowPath, low)] ∧
    result = counter.joined bench.bus.unfilled high low
  /-- The upper half counts 2^32 times. -/
  joins : ∀ high low : UInt32,
    (TimestampWord.ofHalves high low).value.toNat = high.toNat * 2 ^ 32 + low.toNat
  /-- A dispatch that is refused changes no register and gives no value. -/
  refused : ∀ message, bench.bus.fault = some { remaining := 0, message } →
    (∀ word, RefusedWith (counter.set word) bench message) ∧
      RefusedWith counter.read bench message
  /-- What is loaded into a device that latches it comes back from every later read, whatever
  traffic has left the registers alone in between. -/
  returns : bench.Ready → counter.Latches bench.bus → ∀ word, ∃ after,
    (counter.set word).run bench = (.ok (), after) ∧ ∀ (traffic : List Bus.Use) (later : Bench),
      after.bus.SparedBy [counter.highPath, counter.lowPath] traffic →
      later.bus = traffic.foldl Bus.Use.act after.bus →
      (Exchange counter.read later fun result accesses =>
        accesses = (counter.shown word).map (.fetched (later.bus.dispatches + 1) later.clock) ∧
        result = counter.joined later.bus.unfilled word.high word.low) ∧
      ((∀ use ∈ traffic, use.meddles = false) → bench.bus.unfilled = [] →
        (counter.read.run later).1 = .ok word)

/-- No value of the counter is torn, on any bench. The assumption holds of every register space that
was used by its operations (`Bus.allotted_ofUses`). -/
theorem untorn (counter : TimestampCounter) (hallotted : bench.bus.Allotted) :
    counter.Untorn bench := by
  have hread := counter.exchange_read hallotted
  have hset := fun word => exchange_send (counter.load word) bench
  refine ⟨hset, ?loads, hread, TimestampWord.toNat_ofHalves, ?refused, ?returns⟩
  case loads =>
    intro hready word
    obtain ⟨after, hsend, -, hcommits⟩ := run_send_of_healthy (counter.load word) hready.fault
    rw [Bus.flushed_of_queue_nil hready.queue, List.nil_append] at hcommits
    exact ⟨after, hsend, hcommits⟩
  case refused =>
    intro message hdue
    exact ⟨fun word => refusedWith_of_exchange (hset word) hdue, refusedWith_of_exchange hread hdue⟩
  case returns =>
    intro hready hlatches word
    obtain ⟨after, hrun, hdispatched, hregisters, hscripts⟩ := exists_loaded hready hlatches word
    refine ⟨after, hrun, fun traffic later hspared hlater => ?_⟩
    have hpaths : after.bus.SparedBy ((counter.shown word).map Prod.fst) traffic := hspared
    obtain ⟨written, hshows⟩ := hpaths.shows hdispatched.queue hregisters hscripts
    have hslots := (Bus.allotted_of_queue_nil hdispatched.queue).foldl_act traffic
    rw [← hlater] at hshows hslots
    have hexchange := exchange_read_shown hslots hshows
    refine ⟨hexchange, fun hquiet hfilled => ?_⟩
    have hnone : after.bus.fault = none := by rw [hdispatched.fault, hready.fault]; rfl
    obtain ⟨hfault, hunfilled⟩ := Bus.foldl_act_of_not_meddles hquiet hnone
    rw [← hlater] at hfault hunfilled
    have hempty : later.bus.unfilled = [] := by
      rw [hunfilled, hdispatched.unfilled, hfilled]
    obtain ⟨result, accesses, last, hread, -, -, -, rfl⟩ := hexchange.run_of_fault_none hfault
    rw [hread, hempty]
    exact congrArg Except.ok word.ofHalves_high_low

/-! ### A device that latches -/

/-- The counter of the reference system. -/
def referenceCounter : TimestampCounter where
  block := ⟨"master.tstamp"⟩

/-- The reaction that copies every written value. -/
def copying (target : String) : Reaction where
  triggers := none
  stores := []
  adds := []
  copyTo := some target
  otherwise := []
  uses := none

theorem copies_hook_copying (target : String) : (copying target).hook.Copies target :=
  fun _ stimulus path => NameMap.get?_set stimulus.registers target path stimulus.value

/-- A bench with a device that latches. -/
def latching : Bench where
  bus := (({} : Bus).onWrite "master.tstamp.ctr.set_h"
      (copying referenceCounter.highPath).hook).onWrite "master.tstamp.ctr.set_l"
        (copying referenceCounter.lowPath).hook
  wallClock := (Design.answering 0).wallClock

theorem latches_latching : referenceCounter.Latches latching.bus where
  high := ⟨_, rfl, copies_hook_copying _⟩
  low := ⟨_, rfl, copies_hook_copying _⟩
  unscripted := ⟨rfl, rfl⟩

theorem untorn_latching : latching.bus.Allotted ∧ latching.Ready ∧
    referenceCounter.Latches latching.bus ∧ referenceCounter.Untorn latching :=
  ⟨Bus.allotted_of_queue_nil rfl, ⟨rfl, rfl⟩, latches_latching,
    untorn referenceCounter (Bus.allotted_of_queue_nil rfl)⟩

/-- Traffic that writes another register and leaves a write queued. -/
def neighbouring : List Bus.Use :=
  [.call (.write "master.tstamp.ctr.step" 7), .call (.dispatch 5), .call (.read "io.csr.ctrl.mux"),
    .call (.write "master.tstamp.ctr.step" 8)]

/-- Such traffic leaves the counter alone. -/
example : latching.bus.SparedBy [referenceCounter.highPath, referenceCounter.lowPath]
    neighbouring where
  stored path value hmem := by simp [neighbouring] at hmem
  scripted path values hmem := by simp [neighbouring] at hmem
  written key value hmem := by
    have hkey : key = "master.tstamp.ctr.step" := by
      simp [neighbouring] at hmem
      rcases hmem with ⟨rfl, -⟩ | ⟨rfl, -⟩ <;> rfl
    subst hkey
    refine ⟨by decide, ?_, fun hook hhook => by simp [neighbouring] at hhook⟩
    intro hook hhook
    cases hhook

/-- Both halves of a value count. -/
example : ((referenceCounter.set ⟨0x123456789⟩ >>= fun _ => referenceCounter.read).run
    latching).1 = .ok ⟨0x123456789⟩ := by decide

/-- A bench on which the upper half is left unfilled. -/
def unanswered : Bench where
  bus := (({} : Bus).setRegister referenceCounter.highPath 1).setRegister referenceCounter.lowPath 2
    |>.leaveUnfilled [referenceCounter.highPath]
  wallClock := (Design.answering 0).wallClock

/-- A bench on which a write is queued. -/
def occupied : Bench where
  bus := ({} : Bus).write "io.csr.ctrl.mux" 5
  wallClock := (Design.answering 0).wallClock

/-- Not every read that is dispatched gives a value, and not every one is alone in its dispatch. -/
theorem read_unanswered_occupied :
    referenceCounter.read.commits unanswered = [.fetched 1 0 (referenceCounter.highPath, 1),
      .fetched 1 0 (referenceCounter.lowPath, 2)] ∧
    (referenceCounter.read.run unanswered).1 = .error (.notDispatched referenceCounter.highPath) ∧
    (¬ ∀ (counter : TimestampCounter) (bench : Bench), bench.bus.fault = none →
      ∃ high low, (counter.read.run bench).1 = .ok (.ofHalves high low)) ∧
    ¬ ∀ (counter : TimestampCounter) (bench : Bench), bench.bus.fault = none →
      ∃ high low, counter.read.commits bench =
        [.fetched (bench.bus.dispatches + 1) bench.clock (counter.highPath, high),
          .fetched (bench.bus.dispatches + 1) bench.clock (counter.lowPath, low)] := by
  have hresult : (referenceCounter.read.run unanswered).1 =
      .error (.notDispatched referenceCounter.highPath) := by decide
  have hlength : (referenceCounter.read.commits occupied).length = 3 := by decide
  refine ⟨by decide, hresult, fun hvalues => ?_, fun hreads => ?_⟩
  · obtain ⟨high, low, hvalue⟩ := hvalues referenceCounter unanswered rfl
    rw [hresult] at hvalue
    cases hvalue
  · -- The queued write is committed as well.
    obtain ⟨high, low, hcommits⟩ := hreads referenceCounter occupied rfl
    rw [hcommits] at hlength
    cases hlength

end TimestampCounter

end OpticalTiming
