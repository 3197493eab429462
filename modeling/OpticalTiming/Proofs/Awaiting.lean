import OpticalTiming.Proofs.Refusing

/-!
# Reads are used when they are carried out

A procedure is `Timely` if it asks for no value but those of the reads that its last dispatch has
carried out, and does nothing more once it finds such a value missing. That a dispatch fills the
handle of every read that was queued since the one before it is the invariant `Bus.Awaits`; so a
value can only be missing where the register is left unfilled (`missing_of_timelyFrom`).

Every exchange is timely, and so are the calls that are put together from them
(`compositional_timely`). `Design.readsInTime` says of every call, on any bench, that it never uses
a read too early.
-/

namespace OpticalTiming

open Procedure

namespace Procedure

variable {α β : Type}

/-! ### Timely procedures -/

/-- Whether a procedure asks for no value but those of the reads that the last dispatch has carried
out, and ends with the error where such a value is missing. The handles of the reads that are
`queued` since the last dispatch, and of those that it has `carried` out, are known. -/
def TimelyFrom : Procedure α → (queued carried : List Handle) → Prop
  | done _, _, _ => True
  | fail e, _, _ => ∀ path, e ≠ .notDispatched path
  | ask (.read path) next, queued, carried =>
    ∀ index, (next { path, index }).TimelyFrom ({ path, index } :: queued) carried
  | ask (.write _ _) next, queued, carried => (next ()).TimelyFrom queued carried
  | ask .dispatch next, queued, _ =>
    (next (.ok ())).TimelyFrom [] queued ∧
      ∀ message, (next (.error (.bus message))).TimelyFrom [] []
  | ask (.value handle) next, queued, carried =>
    handle ∈ carried ∧ (∀ value, (next (.ok value)).TimelyFrom queued carried) ∧
      next (.error (.notDispatched handle.path)) = fail (.notDispatched handle.path)
  | ask (.wait _) next, queued, carried =>
    (next (.ok ())).TimelyFrom queued carried ∧
      (next (.error .cancelled)).TimelyFrom queued carried
  | ask .now next, queued, carried => ∀ time, (next time).TimelyFrom queued carried
  | ask .wallClock next, queued, carried => ∀ time, (next time).TimelyFrom queued carried

/-- Whether a procedure is timely on its own, whatever was done before it. -/
def Timely (p : Procedure α) : Prop := p.TimelyFrom [] []

/-- The more reads there are, the more values can be asked for. -/
theorem TimelyFrom.mono {p : Procedure α} {queued queued' carried carried' : List Handle}
    (hp : p.TimelyFrom queued carried) (hqueued : queued ⊆ queued') (hcarried : carried ⊆ carried') :
    p.TimelyFrom queued' carried' := by
  induction p generalizing queued queued' carried carried' with
  | done a => trivial
  | fail e => exact hp
  | ask request next ih =>
    cases request with
    | read path =>
      exact fun index => ih _ (hp index) (List.cons_subset_cons _ hqueued) hcarried
    | write path value => exact ih _ hp hqueued hcarried
    | dispatch =>
      exact ⟨ih _ hp.1 (List.Subset.refl _) hqueued,
        fun message => ih _ (hp.2 message) (List.Subset.refl _) (List.Subset.refl _)⟩
    | value handle =>
      exact ⟨hcarried hp.1, fun value => ih _ (hp.2.1 value) hqueued hcarried, hp.2.2⟩
    | wait ms => exact ⟨ih _ hp.1 hqueued hcarried, ih _ hp.2 hqueued hcarried⟩
    | now => exact fun time => ih _ (hp time) hqueued hcarried
    | wallClock => exact fun time => ih _ (hp time) hqueued hcarried

theorem Timely.from {p : Procedure α} (hp : p.Timely) (queued carried : List Handle) :
    p.TimelyFrom queued carried :=
  hp.mono (List.nil_subset _) (List.nil_subset _)

theorem TimelyFrom.bind {p : Procedure α} {f : α → Procedure β} {queued carried : List Handle}
    (hp : p.TimelyFrom queued carried) (hf : ∀ a, (f a).Timely) :
    (p >>= f).TimelyFrom queued carried := by
  induction p generalizing queued carried with
  | done a => exact (hf a).from queued carried
  | fail e => exact hp
  | ask request next ih =>
    cases request with
    | read path => exact fun index => ih _ (hp index)
    | write path value => exact ih _ hp
    | dispatch => exact ⟨ih _ hp.1, fun message => ih _ (hp.2 message)⟩
    | value handle =>
      refine ⟨hp.1, fun value => ih _ (hp.2.1 value), ?_⟩
      show (next (.error (.notDispatched handle.path)) >>= f) = _
      rw [hp.2.2, fail_bind]
    | wait ms => exact ⟨ih _ hp.1, ih _ hp.2⟩
    | now => exact fun time => ih _ (hp time)
    | wallClock => exact fun time => ih _ (hp time)

/-- Handling the failures of links leaves a procedure timely. -/
theorem TimelyFrom.handle {p : Procedure α} {f : Except Error α → Procedure β}
    {queued carried : List Handle} (hp : p.TimelyFrom queued carried)
    (hpass : ∀ e, e.isLinkFailure = false → f (.error e) = fail e) (hok : ∀ a, (f (.ok a)).Timely)
    (hlink : ∀ e, e.isLinkFailure → (f (.error e)).Timely) :
    (p.attempt >>= f).TimelyFrom queued carried := by
  induction p generalizing queued carried with
  | done a => exact (hok a).from queued carried
  | fail e =>
    show (f (.error e)).TimelyFrom queued carried
    cases he : e.isLinkFailure with
    | true => exact (hlink e he).from queued carried
    | false =>
      rw [hpass e he]
      exact hp
  | ask request next ih =>
    cases request with
    | read path => exact fun index => ih _ (hp index)
    | write path value => exact ih _ hp
    | dispatch => exact ⟨ih _ hp.1, fun message => ih _ (hp.2 message)⟩
    | value handle =>
      refine ⟨hp.1, fun value => ih _ (hp.2.1 value), ?_⟩
      show ((next (.error (.notDispatched handle.path))).attempt >>= f) = _
      rw [hp.2.2, ← hpass _ rfl]
      rfl
    | wait ms => exact ⟨ih _ hp.1, ih _ hp.2⟩
    | now => exact fun time => ih _ (hp time)
    | wallClock => exact fun time => ih _ (hp time)

/-! ### Exchanges and polls -/

theorem sequential_timely : Sequential fun _ p => p.Timely where
  done _ := trivial
  bind := TimelyFrom.bind

theorem timely_dispatch : dispatch.Timely :=
  ⟨trivial, fun message => (by rintro path ⟨⟩)⟩

theorem timely_wait (ms : Nat) : (wait ms).Timely := ⟨trivial, by rintro path ⟨⟩⟩

theorem timelyFrom_value {handle : Handle} {queued carried : List Handle} (h : handle ∈ carried) :
    (value handle).TimelyFrom queued carried :=
  ⟨h, fun _ => trivial, rfl⟩

theorem timely_send (pairs : List (String × UInt32)) : (send pairs).Timely :=
  sequential_timely.send (fun _ _ => trivial) timely_dispatch

/-- What is sent asks for no value, so its failure may be handled in any timely way. -/
theorem timely_attempt_send_bind (pairs : List (String × UInt32))
    {f : Except Error Unit → Procedure β} (hf : ∀ result, (f result).Timely) :
    ((send pairs).attempt >>= f).Timely := by
  induction pairs with
  | nil => exact ⟨hf (.ok ()), fun message => hf (.error (.bus message))⟩
  | cons pair rest ih => exact ih

theorem timely_fetch (block : RegisterBlock) (leaf : String) : (block.fetch leaf).Timely :=
  fun _ => ⟨timelyFrom_value List.mem_cons_self, fun message => (by rintro path ⟨⟩)⟩

/-- Reads are timely with what follows them if that is timely once they are queued. -/
theorem timelyFrom_readAll_bind (block : RegisterBlock) (leaves : List String)
    {f : List (String × Handle) → Procedure β} {queued carried : List Handle}
    (hf : ∀ handles queued', queued ⊆ queued' → (∀ pair ∈ handles, pair.2 ∈ queued') →
      (f handles).TimelyFrom queued' carried) :
    (block.readAll leaves >>= f).TimelyFrom queued carried := by
  induction leaves generalizing f queued with
  | nil => exact hf [] queued (List.Subset.refl _) fun pair hmem => (by cases hmem)
  | cons leaf rest ih =>
    intro index
    show ((block.readAll rest >>= fun handles => done ((leaf, ⟨block.path leaf, index⟩) :: handles))
      >>= f).TimelyFrom _ carried
    rw [bind_assoc]
    refine ih fun handles queued' hsubset hmem => ?_
    refine hf _ queued' (fun handle h => hsubset (List.mem_cons_of_mem _ h)) ?_
    rintro pair (_ | ⟨_, hrest⟩)
    · exact hsubset List.mem_cons_self
    · exact hmem pair hrest

theorem timelyFrom_collect {handles : List (String × Handle)} {queued carried : List Handle}
    (h : ∀ pair ∈ handles, pair.2 ∈ carried) (values : NameMap UInt32) :
    (RegisterBlock.collect values handles).TimelyFrom queued carried := by
  induction handles generalizing values with
  | nil => trivial
  | cons pair rest ih =>
    obtain ⟨hfirst, hrest⟩ := List.forall_mem_cons.mp h
    exact ⟨hfirst, fun value => ih hrest (values.set pair.1 value), rfl⟩

theorem timely_snapshot (block : RegisterBlock) (leaves : List String) :
    (block.snapshot leaves).Timely := by
  refine timelyFrom_readAll_bind block leaves fun handles queued _ hmem => ?_
  refine ⟨?_, fun message => (by rintro path ⟨⟩)⟩
  exact (timelyFrom_collect hmem .empty).bind fun _ => trivial

/-- Exchanges, waits and polls are timely, and so is everything that is put together from them. -/
theorem compositional_timely : Compositional fun _ p => p.Timely where
  done _ := trivial
  fail e he := by
    rintro path rfl
    cases he
  bind := TimelyFrom.bind
  handle := TimelyFrom.handle
  send := timely_send
  wait := timely_wait
  wallClock := fun _ => trivial
  poll interval _ block leaf _ := sequential_timely.pollUntil (timely_wait interval)
    (fun _ => trivial) ((timely_fetch block leaf).bind fun _ => trivial)
  stamps block := timely_snapshot block _

end Procedure

/-! ### What a register space knows of the reads -/

/-- What a register space, whose journal had `start` accesses once, knows of handles since then: the
reads of some are queued, and the last dispatch has carried out those of the others, which have a
value unless their register is left unfilled. -/
structure Bus.Awaits (bus : Bus) (start : Nat) (queued carried : List Handle) : Prop where
  start_le : start ≤ bus.journal.length
  queued : ∀ handle ∈ queued, handle.index < bus.slots.size ∧
    .read handle.path (if bus.unfilled.contains handle.path then none else some handle.index) ∈
      bus.queue
  carried : ∀ handle ∈ carried, (∃ value, bus.slots[handle.index]? = some (some value)) ∨
    handle.path ∈ bus.unfilled ∧ ∃ a ∈ bus.journalFrom start,
      a.IsReadOf handle.path ∧ a.dispatch = bus.dispatches

namespace Bus.Awaits

variable {bus : Bus} {start : Nat} {queued carried : List Handle}

theorem nothing (h : start ≤ bus.journal.length) : bus.Awaits start [] [] :=
  ⟨h, fun _ hmem => (by cases hmem), fun _ hmem => (by cases hmem)⟩

theorem write (h : bus.Awaits start queued carried) (path : String) (value : UInt32) :
    (bus.write path value).Awaits start queued carried := by
  refine ⟨h.start_le, fun handle hmem => ?_, h.carried⟩
  obtain ⟨hindex, hqueued⟩ := h.queued handle hmem
  exact ⟨hindex, List.mem_append_left _ hqueued⟩

theorem read (h : bus.Awaits start queued carried) (path : String) :
    (bus.read path).2.Awaits start ((bus.read path).1 :: queued) carried := by
  have hsize : (bus.read path).2.slots.size = bus.slots.size + 1 := Array.size_push _
  refine ⟨h.start_le, ?_, fun handle hmem => (h.carried handle hmem).imp_left ?_⟩
  · rintro handle (_ | ⟨_, hmem⟩)
    · refine ⟨?_, List.mem_append_right _ List.mem_cons_self⟩
      rw [hsize]
      exact Nat.lt_succ_self _
    · obtain ⟨hindex, hqueued⟩ := h.queued handle hmem
      refine ⟨?_, List.mem_append_left _ hqueued⟩
      rw [hsize]
      exact Nat.lt_succ_of_lt hindex
  · rintro ⟨value, hvalue⟩
    have hlt : handle.index < bus.slots.size := (Array.getElem?_eq_some_iff.mp hvalue).1
    exact ⟨value, Array.getElem?_push.trans ((if_neg (Nat.ne_of_lt hlt)).trans hvalue)⟩

/-- A dispatch carries out all reads that are queued, and fills their handles unless their register
is left unfilled. -/
theorem flush (h : bus.Awaits start queued carried) (time : Nat) :
    (bus.flush time).Awaits start [] queued := by
  refine ⟨?_, fun _ hmem => (by cases hmem), fun handle hmem => ?_⟩
  · rw [journal_flush, List.length_append]
    exact Nat.le_add_right_of_le h.start_le
  · obtain ⟨hindex, hqueued⟩ := h.queued handle hmem
    by_cases hunfilled : handle.path ∈ bus.unfilled
    · right
      obtain ⟨a, ha, hdone⟩ : ∃ a ∈ bus.flushed time, Queued.IsDoneBy (.read handle.path
          (if bus.unfilled.contains handle.path then none else some handle.index)) a :=
        exists_mem_entries hqueued _
      have hjournal : a ∈ (bus.flush time).journalFrom start := by
        rw [journalFrom, journal_flush, List.drop_append_of_le_length h.start_le]
        exact List.mem_append_right _ ha
      refine ⟨?_, a, hjournal, hdone, ?_⟩
      · rw [unfilled_flush]
        exact hunfilled
      · rw [dispatches_flush]
        exact (mem_flushed ha).1
    · left
      rw [if_neg fun hmem => hunfilled (List.contains_iff_mem.mp hmem)] at hqueued
      have hslot : bus.slots[handle.index]? = some bus.slots[handle.index] :=
        Array.getElem?_eq_getElem hindex
      exact exists_slots_foldl_of_mem hslot hqueued

/-- A handle that a dispatch has carried out has a value, or its register is left unfilled and was
read by the last dispatch. -/
theorem value_cases (h : bus.Awaits start queued carried) {handle : Handle}
    (hcarried : handle ∈ carried) :
    (∃ value, bus.value handle = .ok value) ∨
    (bus.value handle = .error (.notDispatched handle.path) ∧ handle.path ∈ bus.unfilled ∧
      ∃ a ∈ bus.journalFrom start, a.IsReadOf handle.path ∧ a.dispatch = bus.dispatches) := by
  cases hvalue : bus.value handle with
  | ok value => exact Or.inl ⟨value, rfl⟩
  | error e =>
    rcases h.carried handle hcarried with ⟨value, hslot⟩ | hunfilled
    · rw [Bus.value, hslot] at hvalue
      cases hvalue
    · rw [eq_notDispatched_of_value hvalue]
      exact Or.inr ⟨rfl, hunfilled⟩

end Bus.Awaits

/-- A timely procedure can miss a value only where a register is left unfilled, and its last
dispatch has carried out the read. -/
theorem Procedure.missing_of_timelyFrom {α : Type} {p : Procedure α} {bench : Bench} {start : Nat}
    {queued carried : List Handle} (hp : p.TimelyFrom queued carried)
    (h : bench.bus.Awaits start queued carried) {path : String}
    (hrun : (p.run bench).1 = .error (.notDispatched path)) :
    path ∈ bench.bus.unfilled ∧ ∃ a ∈ (p.run bench).2.bus.journalFrom start,
      a.IsReadOf path ∧ a.dispatch = (p.run bench).2.bus.dispatches := by
  induction p generalizing bench queued carried with
  | done a => cases hrun
  | fail e => exact absurd (Except.error.inj hrun) (hp path)
  | ask request next ih =>
    rw [run_ask] at hrun ⊢
    cases request with
    | read register => exact ih _ (hp _) (h.read register) hrun
    | write register value => exact ih _ hp (h.write register value) hrun
    | dispatch =>
      have hanswer : bench.answer .dispatch = bench.dispatch := rfl
      rw [hanswer] at hrun ⊢
      rcases bench.dispatch_cases with ⟨message, -, hdispatch⟩ | ⟨-, hdispatch⟩
      · have hnext : bench.dropQueue.bus.Awaits start [] [] := .nothing h.start_le
        rw [hdispatch] at hrun ⊢
        exact ih _ (hp.2 message) hnext hrun
      · have hflush := h.flush bench.clock
        have hnext : bench.dispatched.bus.Awaits start [] queued :=
          ⟨hflush.start_le, hflush.queued, hflush.carried⟩
        rw [hdispatch] at hrun ⊢
        rw [← bench.unfilled_dispatched]
        exact ih _ hp.1 hnext hrun
    | value handle =>
      obtain ⟨hcarried, hnext, hmissing⟩ := hp
      have hanswer : bench.answer (.value handle) = (bench.bus.value handle, bench) := rfl
      rw [hanswer] at hrun ⊢
      rcases h.value_cases hcarried with ⟨value, hvalue⟩ | ⟨hvalue, hunfilled⟩
      · rw [hvalue] at hrun ⊢
        exact ih _ (hnext value) h hrun
      · -- The procedure ends here, with the name of the register as the error.
        rw [hvalue, hmissing, run_fail] at hrun ⊢
        cases hrun
        exact hunfilled
    | wait ms =>
      have hanswer : bench.answer (.wait ms) = bench.wait ms := rfl
      have hnext : (bench.wait ms).2.bus.Awaits start queued carried := bench.bus_wait ms ▸ h
      have hunfilled : (bench.wait ms).2.bus.unfilled = bench.bus.unfilled := by
        rw [bench.bus_wait]
      rw [hanswer] at hrun ⊢
      rw [← hunfilled]
      rcases bench.reply_wait ms with hreply | hreply <;> rw [hreply] at hrun ⊢
      · exact ih _ hp.1 hnext hrun
      · exact ih _ hp.2 hnext hrun
    | now => exact ih _ (hp _) h hrun
    | wallClock => exact ih _ (hp _) h hrun

/-! ### The calls -/

/-- Whether a procedure uses no read too early on a bench. -/
structure Procedure.UsesInTime {α : Type} (p : Procedure α) (bench : Bench) : Prop where
  /-- With no register left unfilled, no value is missing. -/
  served : bench.bus.unfilled = [] → ∀ path, (p.run bench).1 ≠ .error (.notDispatched path)
  /-- A missing value is that of a register that is left unfilled. The dispatch that should have
  filled it is the last one, and nothing is committed after it. -/
  missing : ∀ path, (p.run bench).1 = .error (.notDispatched path) →
    path ∈ bench.bus.unfilled ∧ ∃ a ∈ p.commits bench, a.IsReadOf path ∧
      a.dispatch = (p.run bench).2.bus.dispatches ∧
      ∀ other ∈ p.commits bench, other.dispatch ≤ a.dispatch

theorem Procedure.Timely.usesInTime {α : Type} {p : Procedure α} (hp : p.Timely) (bench : Bench) :
    p.UsesInTime bench := by
  have hmissing : ∀ path, (p.run bench).1 = .error (.notDispatched path) →
      path ∈ bench.bus.unfilled ∧ ∃ a ∈ p.commits bench, a.IsReadOf path ∧
        a.dispatch = (p.run bench).2.bus.dispatches ∧
        ∀ other ∈ p.commits bench, other.dispatch ≤ a.dispatch := by
    intro path hrun
    obtain ⟨hunfilled, a, ha, hread, hlast⟩ :=
      missing_of_timelyFrom hp (.nothing (Nat.le_refl _)) hrun
    refine ⟨hunfilled, a, ha, hread, hlast, fun other hother => ?_⟩
    rw [hlast]
    exact (mem_commits hother).1.2
  refine ⟨fun hnone path hrun => ?_, hmissing⟩
  have hunfilled := (hmissing path hrun).1
  rw [hnone] at hunfilled
  cases hunfilled

/-- Every call is timely: after the failure of a link nothing is read any more. -/
theorem timely_perform (design : Design) (settings : CalibrationSettings) (call : Design.Call) :
    (call.perform design settings).Timely :=
  Design.Call.compositional compositional_timely design settings call fun _ _ htarget _ e he => by
    rw [Design.release_eq htarget]
    refine timely_attempt_send_bind _ fun _ path => ?_
    rintro rfl
    cases he

/-- The result of an echo, whatever state it starts from. -/
theorem timely_trip (trip : EchoTrip) : (EchoMonitor.resultOf trip.run).Timely := by
  by_cases hidle : trip.state = .idle
  · rw [EchoMonitor.resultOf_run hidle]
    exact (timely_send _).bind fun _ => compositional_timely.collectEcho _ _
  · rw [EchoMonitor.resultOf, EchoTrip.run, if_neg hidle]
    rintro path ⟨⟩

/-- Both halves of a counter are carried out by one dispatch. -/
theorem timely_read (counter : TimestampCounter) : counter.read.Timely := by
  intro high low
  refine ⟨⟨List.mem_cons_of_mem _ List.mem_cons_self, fun value => ?_, rfl⟩,
    fun message => (by rintro path ⟨⟩)⟩
  exact ⟨List.mem_cons_self, fun _ => trivial, rfl⟩

/-- No call of a design, of its master or of one of their blocks uses a read too early. -/
structure Design.ReadsInTime (design : Design) (settings : CalibrationSettings) (bench : Bench) :
    Prop where
  perform : ∀ call, (Call.perform design settings call).UsesInTime bench
  /-- A scanner can have any multiplexer. -/
  switchTo : ∀ mux channel waitForLock,
    ((MuxScanner.ofMaster design.master mux).switchTo channel waitForLock).UsesInTime bench
  scan : ∀ mux count, ((MuxScanner.ofMaster design.master mux).scan count).UsesInTime bench
  read : ∀ counter : TimestampCounter, counter.read.UsesInTime bench
  trip : ∀ trip : EchoTrip, (EchoMonitor.resultOf trip.run).UsesInTime bench
  enable : ∀ receiver : UpstreamReceiver, receiver.enable.UsesInTime bench
  snapshot : ∀ (block : RegisterBlock) leaves, (block.snapshot leaves).UsesInTime bench

/-- Whatever is queued, scripted, left unfilled or arranged to go wrong on a bench, a value that a
call misses is one that the bench withholds. -/
theorem Design.readsInTime (design : Design) (settings : CalibrationSettings) (bench : Bench) :
    design.ReadsInTime settings bench where
  perform call := (timely_perform design settings call).usesInTime bench
  switchTo mux channel waitForLock :=
    (compositional_timely.switchTo design.master mux channel waitForLock).usesInTime bench
  scan mux count := (compositional_timely.scan design.master mux count).usesInTime bench
  read counter := (timely_read counter).usesInTime bench
  trip trip := (timely_trip trip).usesInTime bench
  enable receiver := (compositional_timely.enable receiver).usesInTime bench
  snapshot block leaves := (timely_snapshot block leaves).usesInTime bench

/-- A done bit that is left unfilled is missed at the first look. -/
example :
    let bench := Design.answering 0
    let unfilled := [Design.reference.master.echo.donePath]
    ((Design.reference.calibration.measure ⟨7⟩ false none).run
      { bench with bus := { bench.bus with unfilled } }).1 =
        .error (.notDispatched Design.reference.master.echo.donePath) := by rfl

end OpticalTiming
