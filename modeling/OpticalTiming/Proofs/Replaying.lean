import Mathlib.Data.List.Flatten
import OpticalTiming.Proofs.Conserving

/-!
# What a read returns

The journal of a register space can be replayed. `eventsOf` is what happened to the device in a
history: what was stored, scripted and attached, and every access that a dispatch committed. A
`Replay` keeps what such events say of the device, and `Replay.answer` is what a read should find
then: the oldest scripted value that no read has used up, else the content of the register.

`replayed_history` says that every read in the journal has this value. The proof is a simulation:
`Mirrors` relates the replay to the register space, and each call (`Mirrors.act`) keeps it.
-/

namespace OpticalTiming.Bus

/-! ### The events of a history -/

/-- Something that happened to the device of a register space. -/
inductive Event where
  | stored (path : String) (value : UInt32)
  | scripted (path : String) (values : List UInt32)
  | attached (path : String) (hook : Hook)
  | committed (a : Access)

/-- The access of an event, if it is one. -/
def Event.access? : Event → Option Access
  | committed a => some a
  | _ => none

/-- What happens to the device in a call. -/
def Operation.events (bus : Bus) : Operation → List Event
  | setRegister path value => [.stored path value]
  | scriptReads path values => [.scripted path values]
  | onWrite path hook => [.attached path hook]
  | dispatch time => ((bus.dispatch time).2.journalFrom bus.journal.length).map .committed
  | _ => []

/-- What happens to the device in a history that starts with a given register space. -/
def eventsFrom : Bus → List Operation → List Event
  | _, [] => []
  | bus, operation :: rest => operation.events bus ++ eventsFrom (operation.act bus) rest

/-- What happens to the device in a history. -/
def eventsOf (history : List Operation) : List Event := eventsFrom {} history

/-- The values by which a call extends the script of a register. -/
def Operation.scriptOf (path : String) : Operation → List UInt32
  | scriptReads other values => if path = other then values else []
  | _ => []

/-! ### The replay -/

/-- What the events so far say of the device. -/
structure Replay where
  registers : RegisterFile := .empty
  /-- All hooks with the registers that they watch, in the order in which they were attached. -/
  hooks : List (String × AttachedHook) := []
  /-- All values ever scripted for a register. -/
  scripts : String → List UInt32 := fun _ => []
  /-- The values that reads took from the script of a register. -/
  consumed : String → List UInt32 := fun _ => []

namespace Replay

/-- The lists with further values at the end of one of them. -/
def extend (lists : String → List UInt32) (path : String) (values : List UInt32) :
    String → List UInt32 :=
  fun key => lists key ++ if key = path then values else []

/-- What a read should find: the oldest scripted value that is left, else the content of the
register. -/
def answer (replay : Replay) (path : String) : UInt32 :=
  (replay.scripts path)[(replay.consumed path).length]?.getD
    (RegisterFile.read replay.registers path)

/-- Lets the hooks of one register answer a write in turn, and no other hook, whatever they do to
other registers. -/
def fire (path : String) (value : UInt32) :
    List (String × AttachedHook) → RegisterFile → List (String × AttachedHook) × RegisterFile
  | [], registers => ([], registers)
  | (watched, hook) :: rest, registers =>
    if watched = path then
      let (hook, registers) := hook.fire value registers
      let (rest, registers) := fire path value rest registers
      ((watched, hook) :: rest, registers)
    else
      let (rest, registers) := fire path value rest registers
      ((watched, hook) :: rest, registers)

/-- The device after an event. A write is stored before the hooks see it. -/
def step (replay : Replay) : Event → Replay
  | .stored path value => { replay with registers := replay.registers.set path value }
  | .scripted path values =>
    { replay with scripts := extend replay.scripts path values }
  | .attached path hook =>
    { replay with hooks := replay.hooks ++ [(path, { react := hook })] }
  | .committed a =>
    match a.kind with
    | .read =>
      if (replay.consumed a.path).length < (replay.scripts a.path).length then
        { replay with consumed := extend replay.consumed a.path [a.value] }
      else replay
    | .write =>
      let (hooks, registers) :=
        fire a.path a.value replay.hooks (replay.registers.set a.path a.value)
      { replay with hooks, registers }

/-- The device after a list of events. -/
def ofEvents (events : List Event) : Replay := events.foldl step {}

end Replay

/-- The journal of a history is what the replay of its events says. -/
structure Replayed (history : List Operation) : Prop where
  /-- The accesses among the events are the journal. -/
  journal : (eventsOf history).filterMap Event.access? = (ofHistory history).journal
  /-- The journal has nothing but what was queued, so nothing that a hook does is in it. -/
  asked : ((ofHistory history).journal.map Access.ask).Sublist (history.filterMap Operation.ask?)
  /-- Every read in the journal has the value that the events before it lead to. -/
  reads : ∀ before a rest, eventsOf history = before ++ .committed a :: rest →
    a.kind = .read → a.value = (Replay.ofEvents before).answer a.path
  /-- The registers are those of the replay. -/
  registers : (ofHistory history).registers = (Replay.ofEvents (eventsOf history)).registers
  /-- The values that reads took from scripts, and then those that are left, are all values ever
  scripted, in the order of the calls. -/
  scripts : ∀ path, (Replay.ofEvents (eventsOf history)).consumed path ++
    (ofHistory history).script path = history.flatMap (Operation.scriptOf path)
  /-- An attempt to dispatch that fails now leaves every script alone. -/
  refused : ∀ time e next, (ofHistory history).dispatch time = (.error e, next) →
    ∀ path, next.script path = (ofHistory history).script path
  /-- A successful one takes a value for each read of the register, and none for writes. -/
  dispatched : ∀ time next, (ofHistory history).dispatch time = (.ok (), next) →
    ∀ path, next.script path =
      ((ofHistory history).script path).drop
        ((ofHistory history).queue.countP fun queued => queued.ask = .read path)

/-! ### Scripts and hooks of the register space -/

/-- Looking up a list after storing one; a name without a list has the empty one. -/
theorem getD_get?_set {α : Type} (m : NameMap (List α)) (name key : String) (value : List α) :
    ((m.set name value).get? key).getD [] =
      if key = name then value else (m.get? key).getD [] := by
  rw [NameMap.get?_set]
  split <;> rfl

/-- Looking up a list after one was extended. -/
theorem getD_get?_extend {α : Type} (m : NameMap (List α)) (name key : String) (more : List α) :
    ((m.set name ((m.get? name).getD [] ++ more)).get? key).getD [] =
      (m.get? key).getD [] ++ if key = name then more else [] := by
  rw [getD_get?_set]
  split
  case isTrue hkey => rw [hkey]
  case isFalse => exact (List.append_nil _).symm

/-- A read uses up the oldest value of its script, if there is one. -/
theorem script_commitRead (bus : Bus) (time : Nat) (path : String) (slot : Option Nat)
    (key : String) :
    (bus.commitRead time path slot).script key =
      if key = path then (bus.script path).tail else bus.script key := by
  unfold commitRead
  cases hscript : bus.script path with
  | nil =>
    by_cases hkey : key = path
    · rw [if_pos hkey, hkey]
      exact hscript
    · rw [if_neg hkey]
      rfl
  | cons value rest => exact getD_get?_set bus.scripts path key rest

theorem script_scriptReads (bus : Bus) (path : String) (values : List UInt32) (key : String) :
    (bus.scriptReads path values).script key =
      bus.script key ++ if key = path then values else [] :=
  getD_get?_extend bus.scripts path key values

theorem hooksOf_onWrite (bus : Bus) (path : String) (hook : Hook) (key : String) :
    (bus.onWrite path hook).hooksOf key =
      bus.hooksOf key ++ if key = path then [{ react := hook }] else [] :=
  getD_get?_extend bus.hooks path key [{ react := hook }]

/-- The hooks of the written register have answered the write, and no other hook has. -/
theorem hooksOf_commitWrite (bus : Bus) (time : Nat) (path : String) (value : UInt32)
    (key : String) :
    (bus.commitWrite time path value).hooksOf key =
      if key = path then
        (AttachedHook.fireAll value (bus.hooksOf path) (bus.registers.set path value)).1
      else bus.hooksOf key := by
  unfold commitWrite
  cases hhooks : bus.hooksOf path with
  | nil =>
    by_cases hkey : key = path
    · rw [if_pos hkey, hkey]
      exact hhooks
    · rw [if_neg hkey]
      rfl
  | cons hook rest => exact getD_get?_set bus.hooks path key _

/-! ### The simulation -/

namespace Replay

/-- The hooks that watch a register, in the order in which they were attached. -/
def hooksOn (hooks : List (String × AttachedHook)) (path : String) : List AttachedHook :=
  (hooks.filter fun entry => path = entry.1).map Prod.snd

theorem hooksOn_append (hooks more : List (String × AttachedHook)) (path : String) :
    hooksOn (hooks ++ more) path = hooksOn hooks path ++ hooksOn more path := by
  rw [hooksOn, List.filter_append, List.map_append]
  rfl

theorem hooksOn_cons (watched : String) (hook : AttachedHook)
    (rest : List (String × AttachedHook)) (path : String) :
    hooksOn ((watched, hook) :: rest) path =
      if path = watched then hook :: hooksOn rest path else hooksOn rest path := by
  unfold hooksOn
  rw [List.filter_cons]
  split <;> simp_all

/-- The hooks of the written register answer the write as they do in the register space. -/
theorem fire_eq (path : String) (value : UInt32) (hooks : List (String × AttachedHook))
    (registers : RegisterFile) :
    (fire path value hooks registers).2 =
        (AttachedHook.fireAll value (hooksOn hooks path) registers).2 ∧
      ∀ key, hooksOn (fire path value hooks registers).1 key =
        if key = path then (AttachedHook.fireAll value (hooksOn hooks path) registers).1
        else hooksOn hooks key := by
  induction hooks generalizing registers with
  | nil => exact ⟨rfl, fun key => (ite_self _).symm⟩
  | cons entry rest ih =>
    obtain ⟨watched, hook⟩ := entry
    by_cases hwatched : watched = path
    · subst hwatched
      obtain ⟨hregisters, hhooks⟩ := ih (hook.fire value registers).2
      rw [fire, if_pos rfl, hooksOn_cons, if_pos rfl]
      refine ⟨hregisters, fun key => ?_⟩
      rw [hooksOn_cons, hooksOn_cons, hhooks]
      split <;> rfl
    · obtain ⟨hregisters, hhooks⟩ := ih registers
      rw [fire, if_neg hwatched, hooksOn_cons, if_neg (Ne.symm hwatched)]
      refine ⟨hregisters, fun key => ?_⟩
      rw [hooksOn_cons, hooksOn_cons, hhooks]
      by_cases hkey : key = path
      · rw [if_pos hkey, if_pos hkey, if_neg (hkey ▸ Ne.symm hwatched)]
      · rw [if_neg hkey, if_neg hkey]

end Replay

/-- The replay and the register space agree on the device. -/
structure Mirrors (replay : Replay) (bus : Bus) : Prop where
  registers : bus.registers = replay.registers
  hooks : ∀ path, bus.hooksOf path = Replay.hooksOn replay.hooks path
  scripts : ∀ path, replay.consumed path ++ bus.script path = replay.scripts path

/-- Every read among the events has the value that the replay expects. -/
def Sound : Replay → List Event → Prop
  | _, [] => True
  | replay, event :: rest =>
    (∀ a, event = .committed a → a.kind = .read → a.value = replay.answer a.path) ∧
      Sound (replay.step event) rest

theorem sound_append {replay : Replay} {events more : List Event} :
    Sound replay (events ++ more) ↔
      Sound replay events ∧ Sound (events.foldl Replay.step replay) more := by
  induction events generalizing replay with
  | nil => exact (true_and _).to_iff.symm
  | cons event rest ih =>
    rw [List.cons_append, Sound, ih, Sound, and_assoc, List.foldl_cons]

section

variable {bus : Bus} {replay : Replay}

/-- What a read returns next is what the replay expects. -/
theorem Mirrors.nextRead (h : Mirrors replay bus) (path : String) :
    bus.nextRead path = replay.answer path := by
  unfold Bus.nextRead Replay.answer
  rw [← h.scripts path, List.getElem?_append_right (Nat.le_refl _), Nat.sub_self, h.registers]
  cases bus.script path <;> rfl

/-- A committed read keeps the agreement. It takes a value from the script of its register unless
there is none. -/
theorem Mirrors.commitRead (h : Mirrors replay bus) (time : Nat) (path : String)
    (slot : Option Nat) :
    Mirrors (replay.step (.committed (bus.entry time (.read path slot))))
      (bus.commitRead time path slot) := by
  show Mirrors
    (if (replay.consumed path).length < (replay.scripts path).length then
      { replay with consumed := Replay.extend replay.consumed path [bus.nextRead path] }
    else replay) _
  have hlength := congrArg List.length (h.scripts path)
  rw [List.length_append] at hlength
  cases hscript : bus.script path with
  | nil =>
    rw [hscript, List.length_nil] at hlength
    rw [if_neg (by omega)]
    refine ⟨h.registers, h.hooks, fun key => ?_⟩
    rw [script_commitRead, ← h.scripts key]
    split
    case isTrue hkey => rw [hkey, hscript, List.tail_nil]
    case isFalse => rfl
  | cons value rest =>
    rw [hscript, List.length_cons] at hlength
    rw [if_pos (by omega)]
    refine ⟨h.registers, h.hooks, fun key => ?_⟩
    have hnext : bus.nextRead path = value := by
      rw [Bus.nextRead, hscript]
      rfl
    rw [script_commitRead, hnext, ← h.scripts key]
    show (_ ++ if key = path then _ else _) ++ _ = _
    by_cases hkey : key = path
    · rw [if_pos hkey, if_pos hkey, hkey, hscript, List.append_assoc]
      rfl
    · rw [if_neg hkey, if_neg hkey, List.append_nil]

/-- A committed write keeps the agreement. -/
theorem Mirrors.commitWrite (h : Mirrors replay bus) (time : Nat) (path : String)
    (value : UInt32) :
    Mirrors (replay.step (.committed (bus.entry time (.write path value))))
      (bus.commitWrite time path value) := by
  obtain ⟨hregisters, hhooks⟩ :=
    Replay.fire_eq path value replay.hooks (replay.registers.set path value)
  refine ⟨?_, fun key => ?_, h.scripts⟩
  · refine Eq.trans ?_ hregisters.symm
    rw [← h.hooks, ← h.registers]
    rfl
  · refine Eq.trans ?_ (hhooks key).symm
    rw [← h.hooks, ← h.hooks, ← h.registers]
    exact hooksOf_commitWrite bus time path value key

/-- Committing a queue keeps the agreement, and the reads in it have the expected values. -/
theorem Mirrors.foldl_commit {time : Nat} {queue : List Queued} (h : Mirrors replay bus) :
    Sound replay ((entries time bus queue).map .committed) ∧
      Mirrors (((entries time bus queue).map .committed).foldl Replay.step replay)
        (queue.foldl (commit time) bus) := by
  induction queue generalizing replay bus with
  | nil => exact ⟨trivial, h⟩
  | cons queued rest ih =>
    rw [entries, List.map_cons, List.foldl_cons, List.foldl_cons, Sound, and_assoc]
    cases queued with
    | read path slot =>
      refine ⟨?_, ih (h.commitRead time path slot)⟩
      rintro a ⟨⟩ -
      exact h.nextRead path
    | write path value =>
      refine ⟨?_, ih (h.commitWrite time path value)⟩
      rintro a ⟨⟩ ⟨⟩

/-- A dispatch that fails makes no events; a successful one commits the queue. -/
theorem events_dispatch (bus : Bus) (time : Nat) :
    (∃ message, bus.dispatch time = (.error (.bus message), { bus with queue := [], fault := none }) ∧
      (Operation.dispatch time).events bus = []) ∨
    (bus.dispatch time = (.ok (), { bus.flush time with fault := bus.fault.map Fault.tick }) ∧
      (Operation.dispatch time).events bus = (bus.flushed time).map .committed) := by
  rcases bus.dispatch_cases time with ⟨message, -, hdispatch⟩ | ⟨-, hdispatch⟩
  · refine Or.inl ⟨message, hdispatch, ?_⟩
    rw [Operation.events, hdispatch]
    exact congrArg (List.map Event.committed) List.drop_length
  · refine Or.inr ⟨hdispatch, ?_⟩
    rw [Operation.events, hdispatch]
    show ((bus.flush time).journal.drop _).map _ = _
    rw [journal_flush, List.drop_left]

/-- A call keeps the agreement, and the reads that it commits have the expected values. -/
theorem Mirrors.act (h : Mirrors replay bus) (operation : Operation) :
    Sound replay (operation.events bus) ∧
      Mirrors ((operation.events bus).foldl Replay.step replay) (operation.act bus) := by
  have hquiet : ∀ event : Event, event.access? = none → Sound replay [event] := by
    rintro event hnone
    refine ⟨?_, trivial⟩
    rintro a rfl
    cases hnone
  cases operation with
  | setRegister path value =>
    exact ⟨hquiet _ rfl, congrArg (·.set path value) h.registers, h.hooks, h.scripts⟩
  | scriptReads path values =>
    refine ⟨hquiet _ rfl, h.registers, h.hooks, fun key => ?_⟩
    show replay.consumed key ++ (bus.scriptReads path values).script key =
      replay.scripts key ++ _
    rw [script_scriptReads, ← List.append_assoc, h.scripts]
  | onWrite path hook =>
    refine ⟨hquiet _ rfl, h.registers, fun key => ?_, h.scripts⟩
    show (bus.onWrite path hook).hooksOf key = Replay.hooksOn (_ ++ [_]) key
    rw [hooksOf_onWrite, Replay.hooksOn_append, h.hooks, Replay.hooksOn_cons]
    rfl
  | dispatch time =>
    show _ ∧ Mirrors _ (bus.dispatch time).2
    rcases events_dispatch bus time with ⟨message, hdispatch, hevents⟩ | ⟨hdispatch, hevents⟩
    · rw [hdispatch, hevents]
      exact ⟨trivial, h.registers, h.hooks, h.scripts⟩
    · have hstart : Mirrors replay { bus with queue := [], dispatches := bus.dispatches + 1 } :=
        ⟨h.registers, h.hooks, h.scripts⟩
      obtain ⟨hsound, hagree⟩ := hstart.foldl_commit
      rw [hdispatch, hevents]
      exact ⟨hsound, hagree.registers, hagree.hooks, hagree.scripts⟩
  | _ => exact ⟨trivial, h.registers, h.hooks, h.scripts⟩

/-- A queue takes from a script a value for each of its reads of the register. -/
theorem script_foldl_commit (time : Nat) (queue : List Queued) (bus : Bus) (path : String) :
    (queue.foldl (commit time) bus).script path =
      (bus.script path).drop (queue.countP fun queued => queued.ask = .read path) := by
  induction queue generalizing bus with
  | nil => rfl
  | cons queued rest ih =>
    rw [List.foldl_cons, ih, List.countP_cons]
    cases queued with
    | read other slot =>
      rw [show commit time bus (.read other slot) = bus.commitRead time other slot from rfl,
        script_commitRead]
      by_cases hpath : path = other
      · subst hpath
        simp [Queued.ask, List.drop_tail, Nat.add_comm]
      · simp [Queued.ask, hpath, Ne.symm hpath]
    | write other value => rfl

end

/-! ### A whole history -/

section

variable {bus : Bus} {replay : Replay}

/-- A history keeps the agreement, and the reads that it commits have the expected values. -/
theorem Mirrors.run (history : List Operation) (h : Mirrors replay bus) :
    Sound replay (eventsFrom bus history) ∧
      Mirrors ((eventsFrom bus history).foldl Replay.step replay)
        (history.foldl Operation.act bus) := by
  induction history generalizing bus replay with
  | nil => exact ⟨trivial, h⟩
  | cons operation rest ih =>
    obtain ⟨hsound, hact⟩ := h.act operation
    obtain ⟨hrest, hrun⟩ := ih hact
    rw [eventsFrom, sound_append, List.foldl_append, List.foldl_cons]
    exact ⟨⟨hsound, hrest⟩, hrun⟩

/-- The accesses among the events are what was added to the journal. -/
theorem access_eventsFrom (history : List Operation) (bus : Bus) :
    bus.journal ++ (eventsFrom bus history).filterMap Event.access? =
      (history.foldl Operation.act bus).journal := by
  have hact : ∀ (operation : Operation) (bus : Bus),
      bus.journal ++ (operation.events bus).filterMap Event.access? =
        (operation.act bus).journal := by
    intro operation bus
    cases operation with
    | dispatch time =>
      show _ = (bus.dispatch time).2.journal
      rcases events_dispatch bus time with ⟨message, hdispatch, hevents⟩ | ⟨hdispatch, hevents⟩
      · rw [hdispatch, hevents]
        exact List.append_nil _
      · rw [hdispatch, hevents, List.filterMap_map]
        show _ ++ (bus.flushed time).filterMap some = (bus.flush time).journal
        rw [List.filterMap_some, journal_flush]
    | _ => exact List.append_nil _
  induction history generalizing bus with
  | nil => exact List.append_nil _
  | cons operation rest ih =>
    rw [eventsFrom, List.filterMap_append, ← List.append_assoc, hact, ih, List.foldl_cons]

/-- The events extend scripts as the calls of a history do. -/
theorem scripts_eventsFrom (history : List Operation) (bus : Bus) (replay : Replay)
    (path : String) :
    ((eventsFrom bus history).foldl Replay.step replay).scripts path =
      replay.scripts path ++ history.flatMap (Operation.scriptOf path) := by
  have hcommitted : ∀ (accesses : List Access) (replay : Replay),
      ((accesses.map .committed).foldl Replay.step replay).scripts = replay.scripts := by
    intro accesses
    induction accesses with
    | nil => exact fun _ => rfl
    | cons a rest ih =>
      intro replay
      rw [List.map_cons, List.foldl_cons, ih]
      show (match a.kind with | .read => _ | .write => _ : Replay).scripts = _
      cases a.kind with
      | read => exact apply_ite Replay.scripts _ _ _ |>.trans (ite_self _)
      | write => rfl
  have hact : ∀ (operation : Operation) (bus : Bus) (replay : Replay),
      ((operation.events bus).foldl Replay.step replay).scripts path =
        replay.scripts path ++ operation.scriptOf path := by
    intro operation bus replay
    cases operation with
    | scriptReads other values => rfl
    | dispatch time => exact (congrFun (hcommitted _ _) path).trans (List.append_nil _).symm
    | _ => exact (List.append_nil _).symm
  induction history generalizing bus replay with
  | nil => exact (List.append_nil _).symm
  | cons operation rest ih =>
    rw [eventsFrom, List.foldl_append, ih, hact, List.append_assoc, List.flatMap_cons]

end

/-- The journal of every history is what the replay of its events says. -/
theorem replayed_history (history : List Operation) : Replayed history := by
  have hstart : Mirrors {} {} := ⟨rfl, fun _ => rfl, fun _ => rfl⟩
  obtain ⟨hsound, hagree⟩ := hstart.run history
  refine ⟨access_eventsFrom history {}, ?asked, ?reads, hagree.registers, ?scripts, ?refused,
    ?dispatched⟩
  case asked =>
    rw [asks_journal, ← asks_ofHistory]
    exact (List.filter_sublist.flatMap _).trans (List.sublist_append_left _ _)
  case reads =>
    intro before a rest hsplit hread
    rw [← eventsOf, hsplit] at hsound
    exact (sound_append.mp hsound).2.1 a rfl hread
  case scripts =>
    intro path
    exact (hagree.scripts path).trans (scripts_eventsFrom history {} {} path)
  case refused =>
    intro time e next hnext path
    rw [(eq_of_dispatch_error hnext).2]
    rfl
  case dispatched =>
    intro time next hnext path
    rw [eq_of_dispatch_ok hnext]
    exact script_foldl_commit time _ _ path

end OpticalTiming.Bus
