import OpticalTiming.Bus.Journal

/-!
# What a dispatch commits

A dispatch that is not due to fail adds the queue to the journal, access by access in queue order:
`journal_flush` says so with `flushed`, the accesses as they stand in the journal. All of them carry
the number of the dispatch and its time (`mem_flushed`), and writes are journaled as they were
queued (`entries_writes`). `dispatch_cases` names the two ways in which a dispatch can end.

A read fills a free slot with the value that it returns (`slots_commit_read`) and leaves every other
slot alone (`slots_commit_other`).
-/

namespace OpticalTiming

/-- The access that a write leaves in the journal. -/
def Access.written (number time : Nat) (pair : String × UInt32) : Access where
  dispatch := number
  kind := .write
  path := pair.1
  value := pair.2
  time := time

/-- A queued write. -/
def Queued.ofPair (pair : String × UInt32) : Queued := .write pair.1 pair.2

/-- Whether a journaled access is what a queued one asked for. -/
def Queued.IsDoneBy : Queued → Access → Prop
  | .read path _, a => a.kind = .read ∧ a.path = path
  | .write path value, a => a.kind = .write ∧ a.path = path ∧ a.value = value

/-- A due failure, one successful dispatch later. -/
def Fault.tick (fault : Fault) : Fault := { fault with remaining := fault.remaining - 1 }

namespace Bus

variable {time : Nat}

/-- What a queued access leaves in the journal when it is committed. -/
def entry (bus : Bus) (time : Nat) : Queued → Access
  | .read path _ =>
    { dispatch := bus.dispatches, kind := .read, path, value := bus.nextRead path, time }
  | .write path value => { dispatch := bus.dispatches, kind := .write, path, value, time }

/-- What a list of queued accesses leaves in the journal when they are committed one by one. -/
def entries (time : Nat) : Bus → List Queued → List Access
  | _, [] => []
  | bus, queued :: rest => bus.entry time queued :: entries time (commit time bus queued) rest

/-- What a dispatch commits. -/
def flushed (bus : Bus) (time : Nat) : List Access :=
  entries time { bus with queue := [], dispatches := bus.dispatches + 1 } bus.queue

/-! ### The journal -/

theorem log_commit (bus : Bus) (queued : Queued) :
    (commit time bus queued).log = bus.entry time queued :: bus.log := by
  cases queued <;> rfl

theorem dispatches_commit (bus : Bus) (queued : Queued) :
    (commit time bus queued).dispatches = bus.dispatches := by
  cases queued <;> rfl

theorem log_foldl_commit (queue : List Queued) (bus : Bus) :
    (queue.foldl (commit time) bus).log = (entries time bus queue).reverse ++ bus.log := by
  induction queue generalizing bus with
  | nil => rfl
  | cons queued rest ih =>
    rw [List.foldl_cons, ih, log_commit, entries, List.reverse_cons, List.append_assoc]
    rfl

/-- A dispatch adds what it commits to the end of the journal. -/
theorem journal_flush (bus : Bus) :
    (bus.flush time).journal = bus.journal ++ bus.flushed time := by
  -- The log is the journal with the last access first.
  unfold journal flush flushed
  rw [log_foldl_commit, List.reverse_append, List.reverse_reverse]

theorem mem_entries {queue : List Queued} {bus : Bus} {a : Access}
    (ha : a ∈ entries time bus queue) :
    a.dispatch = bus.dispatches ∧ a.time = time ∧ ∃ queued ∈ queue, queued.IsDoneBy a := by
  induction queue generalizing bus with
  | nil => cases ha
  | cons queued rest ih =>
    rcases List.mem_cons.mp ha with rfl | hrest
    · refine ⟨by cases queued <;> rfl, by cases queued <;> rfl, queued, List.mem_cons_self, ?_⟩
      cases queued with
      | read path slot => exact ⟨rfl, rfl⟩
      | write path value => exact ⟨rfl, rfl, rfl⟩
    · obtain ⟨hnumber, htime, other, hmem, hdone⟩ := ih hrest
      rw [dispatches_commit] at hnumber
      exact ⟨hnumber, htime, other, List.mem_cons_of_mem _ hmem, hdone⟩

/-- Whatever is queued leaves an access behind. -/
theorem exists_mem_entries {queue : List Queued} {queued : Queued} (h : queued ∈ queue)
    (bus : Bus) : ∃ a ∈ entries time bus queue, queued.IsDoneBy a := by
  induction queue generalizing bus with
  | nil => cases h
  | cons first rest ih =>
    rcases List.mem_cons.mp h with rfl | hrest
    · refine ⟨_, List.mem_cons_self, ?_⟩
      cases queued with
      | read path slot => exact ⟨rfl, rfl⟩
      | write path value => exact ⟨rfl, rfl, rfl⟩
    · obtain ⟨a, hmem, hdone⟩ := ih hrest (commit time bus first)
      exact ⟨a, List.mem_cons_of_mem _ hmem, hdone⟩

/-- Everything that a dispatch commits was queued, and carries the number and the time of the
dispatch. -/
theorem mem_flushed {bus : Bus} {a : Access} (ha : a ∈ bus.flushed time) :
    a.dispatch = bus.dispatches + 1 ∧ a.time = time ∧
      ∃ queued ∈ bus.queue, queued.IsDoneBy a :=
  mem_entries ha

theorem length_entries (time : Nat) (bus : Bus) (queue : List Queued) :
    (entries time bus queue).length = queue.length := by
  induction queue generalizing bus with
  | nil => rfl
  | cons queued rest ih => exact congrArg Nat.succ (ih _)

/-- Writes are committed as they were queued, whatever they do to the device. -/
theorem entries_writes (pairs : List (String × UInt32)) (bus : Bus) :
    entries time bus (pairs.map .ofPair) = pairs.map (.written bus.dispatches time) := by
  induction pairs generalizing bus with
  | nil => rfl
  | cons pair rest ih =>
    rw [List.map_cons, entries, ih, dispatches_commit]
    rfl

/-! ### The other parts of the register space -/

/-- What no single commit changes, no list of commits changes. -/
theorem foldl_commit_eq {β : Type} (f : Bus → β)
    (h : ∀ bus queued, f (commit time bus queued) = f bus) (queue : List Queued) (bus : Bus) :
    f (queue.foldl (commit time) bus) = f bus := by
  induction queue generalizing bus with
  | nil => rfl
  | cons queued rest ih => rw [List.foldl_cons, ih, h]

@[simp]
theorem queue_flush (bus : Bus) : (bus.flush time).queue = [] :=
  foldl_commit_eq queue (fun _ queued => by cases queued <;> rfl) _ _

@[simp]
theorem dispatches_flush (bus : Bus) : (bus.flush time).dispatches = bus.dispatches + 1 :=
  foldl_commit_eq dispatches (fun _ queued => by cases queued <;> rfl) _ _

@[simp]
theorem unfilled_flush (bus : Bus) : (bus.flush time).unfilled = bus.unfilled :=
  foldl_commit_eq unfilled (fun _ queued => by cases queued <;> rfl) _ _

theorem flush_withFault (bus : Bus) (fault : Option Fault) :
    ({ bus with fault } : Bus).flush time = { bus.flush time with fault } := by
  -- No commit looks at the fault, so it makes no difference when it is replaced.
  have hstep : ∀ (b : Bus) (queued : Queued),
      commit time { b with fault } queued = { commit time b queued with fault } := by
    intro b queued
    cases queued <;> rfl
  have hfold : ∀ (queue : List Queued) (b : Bus),
      queue.foldl (commit time) { b with fault } =
        { queue.foldl (commit time) b with fault } := by
    intro queue
    induction queue with
    | nil => intro b; rfl
    | cons queued rest ih => intro b; rw [List.foldl_cons, hstep, ih, List.foldl_cons]
  exact hfold bus.queue { bus with queue := [], dispatches := bus.dispatches + 1 }

/-- A dispatch that is due to fail drops the queue; any other one commits it. -/
theorem dispatch_cases (bus : Bus) (time : Nat) :
    (∃ message, bus.fault = some { remaining := 0, message } ∧
      bus.dispatch time = (.error (.bus message), { bus with queue := [], fault := none })) ∨
    ((∀ message, bus.fault ≠ some { remaining := 0, message }) ∧
      bus.dispatch time =
        (.ok (), { bus.flush time with fault := bus.fault.map Fault.tick })) := by
  have hcommit : ∀ fault, ({ bus with fault } : Bus).flush time = { bus.flush time with fault } :=
    flush_withFault bus
  unfold dispatch
  split
  case h_1 hfault =>
    rw [hfault]
    refine Or.inr ⟨fun _ h => (by cases h), ?_⟩
    rw [Option.map_none, ← hcommit, ← hfault]
  case h_2 message hfault => exact Or.inl ⟨message, hfault, rfl⟩
  case h_3 n message hfault =>
    rw [hfault]
    refine Or.inr ⟨fun _ h => (by cases h), ?_⟩
    rw [hcommit]
    rfl

/-- A dispatch that failed was due to, and has dropped the queue. -/
theorem eq_of_dispatch_error {bus next : Bus} {e : Error}
    (h : bus.dispatch time = (.error e, next)) :
    (∃ message, bus.fault = some { remaining := 0, message } ∧ e = .bus message) ∧
      next = { bus with queue := [], fault := none } := by
  rcases bus.dispatch_cases time with ⟨message, hfault, hdispatch⟩ | ⟨-, hdispatch⟩
  · cases hdispatch.symm.trans h
    exact ⟨⟨message, hfault, rfl⟩, rfl⟩
  · cases hdispatch.symm.trans h

/-- A dispatch that was successful has committed the queue. -/
theorem eq_of_dispatch_ok {bus next : Bus} (h : bus.dispatch time = (.ok (), next)) :
    next = { bus.flush time with fault := bus.fault.map Fault.tick } := by
  rcases bus.dispatch_cases time with ⟨message, -, hdispatch⟩ | ⟨-, hdispatch⟩
  · cases hdispatch.symm.trans h
  · cases hdispatch.symm.trans h
    rfl

/-- An attempt to dispatch leaves nothing in the queue. -/
theorem queue_dispatch (bus : Bus) (time : Nat) : (bus.dispatch time).2.queue = [] := by
  rcases bus.dispatch_cases time with ⟨message, -, hdispatch⟩ | ⟨-, hdispatch⟩
  · rw [hdispatch]
  · rw [hdispatch]
    exact queue_flush bus

/-! ### Slots -/

/-- Every queued read is for a slot that exists. -/
def Allotted (bus : Bus) : Prop :=
  ∀ path i, .read path (some i) ∈ bus.queue → i < bus.slots.size

theorem allotted_of_queue_nil {bus : Bus} (h : bus.queue = []) : Allotted bus := by
  intro path i hmem
  rw [h] at hmem
  cases hmem

/-- The slots of reads make no difference to what is committed. -/
theorem entries_withSlots (queue : List Queued) (bus : Bus) (slots : Array (Option UInt32)) :
    entries time { bus with slots } queue = entries time bus queue := by
  induction queue generalizing bus slots with
  | nil => rfl
  | cons queued rest ih =>
    cases queued with
    | read path slot => exact congrArg (_ :: ·) (ih (commit time bus (.read path slot)) _)
    | write path value => exact congrArg (_ :: ·) (ih (commit time bus (.write path value)) _)

theorem flushed_withSlots (bus : Bus) (time : Nat) (slots : Array (Option UInt32)) :
    ({ bus with slots } : Bus).flushed time = bus.flushed time :=
  entries_withSlots bus.queue { bus with queue := [], dispatches := bus.dispatches + 1 } slots

theorem getElem?_fillSlot (slots : Array (Option UInt32)) (index : Nat) (value : UInt32)
    (i : Nat) :
    (fillSlot slots index value)[i]? =
      if index = i then slots[i]?.map fun old => some (old.getD value) else slots[i]? :=
  Array.getElem?_modify

/-- A read fills its slot with the value that it is about to return, unless there is one in it. -/
theorem slots_commit_read {bus : Bus} {i : Nat} {old : Option UInt32}
    (h : bus.slots[i]? = some old) (path : String) :
    (commit time bus (.read path (some i))).slots[i]? =
      some (some (old.getD (bus.nextRead path))) := by
  refine (getElem?_fillSlot _ _ _ _).trans ?_
  rw [ite_cond_eq_true _ _ (eq_self i), h]
  rfl

/-- No slot changes but the one that a read is for. -/
theorem slots_commit_other {bus : Bus} {queued : Queued} {i : Nat}
    (h : ∀ path, queued ≠ .read path (some i)) :
    (commit time bus queued).slots[i]? = bus.slots[i]? := by
  rcases queued with ⟨path, slot | index⟩ | _
  · rfl
  · refine (getElem?_fillSlot _ _ _ _).trans ?_
    have hne : index ≠ i := by
      rintro rfl
      exact h path rfl
    rw [ite_cond_eq_false _ _ (eq_false hne)]
  · rfl

theorem slots_foldl_other {queue : List Queued} {bus : Bus} {i : Nat}
    (h : ∀ path, .read path (some i) ∉ queue) :
    (queue.foldl (commit time) bus).slots[i]? = bus.slots[i]? := by
  induction queue generalizing bus with
  | nil => rfl
  | cons queued rest ih =>
    rw [List.foldl_cons, ih fun path hmem => h path (List.mem_cons_of_mem _ hmem)]
    exact slots_commit_other fun path heq => h path (heq ▸ List.mem_cons_self)

/-- No commit takes a value back. -/
theorem slots_commit_of_some {bus : Bus} {i : Nat} {value : UInt32}
    (h : bus.slots[i]? = some (some value)) (queued : Queued) :
    (commit time bus queued).slots[i]? = some (some value) := by
  rcases queued with ⟨path, slot | index⟩ | _
  · exact h
  · refine (getElem?_fillSlot _ _ _ _).trans ?_
    rw [h, Option.map_some, Option.getD_some, ite_self]
  · exact h

theorem slots_foldl_of_some {queue : List Queued} {bus : Bus} {i : Nat} {value : UInt32}
    (h : bus.slots[i]? = some (some value)) :
    (queue.foldl (commit time) bus).slots[i]? = some (some value) :=
  List.foldlRecOn (motive := fun bus => bus.slots[i]? = some (some value)) queue (commit time) h
    fun _ h queued _ => slots_commit_of_some h queued

/-- A slot has a value once a read for it was carried out. -/
theorem exists_slots_foldl_of_mem {queue : List Queued} {bus : Bus} {i : Nat}
    {old : Option UInt32} (hslot : bus.slots[i]? = some old) {path : String}
    (hmem : .read path (some i) ∈ queue) :
    ∃ value, (queue.foldl (commit time) bus).slots[i]? = some (some value) := by
  induction queue generalizing bus with
  | nil => cases hmem
  | cons queued rest ih =>
    by_cases hread : ∃ path, queued = .read path (some i)
    · obtain ⟨path, rfl⟩ := hread
      rw [List.foldl_cons]
      exact ⟨_, slots_foldl_of_some (slots_commit_read hslot path)⟩
    · have hother : ∀ path, queued ≠ .read path (some i) := not_exists.mp hread
      have hrest : .read path (some i) ∈ rest :=
        List.mem_of_ne_of_mem (hother path).symm hmem
      exact ih ((slots_commit_other hother).trans hslot) hrest

/-- A value that is missing is reported with the register of its handle. -/
theorem eq_notDispatched_of_value {bus : Bus} {handle : Handle} {e : Error}
    (h : bus.value handle = .error e) : e = .notDispatched handle.path := by
  unfold value at h
  split at h
  · cases h
  · exact (Except.error.inj h).symm

end Bus

end OpticalTiming
