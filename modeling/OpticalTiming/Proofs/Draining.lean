import OpticalTiming.Proofs.Pacing

/-!
# Nothing is left in the queue

Switching a transmitter only queues a write, so whoever does it has to come to a dispatch on every
path. `Procedure.Tidy` says of the tree of requests alone that a procedure has dispatched whatever
it queued before it waits and before it ends; it holds of every call (`tidy_perform`).

`settles_of_tidy` says what this means on a bench, where accesses of others may be queued already:
up to the first dispatch they stay in the queue, that dispatch takes them along, and from then on
the queue is empty at every wait and at the end.
-/

namespace OpticalTiming

open Procedure

namespace Procedure

variable {α β : Type} {dirty : Bool}

/-! ### Tidy procedures -/

/-- Whether something of a procedure's own is queued after one more request. -/
def dirtyAfter (dirty : Bool) : Request → Bool
  | .read _ | .write _ _ => true
  | .dispatch => false
  | _ => dirty

/-- Whether a procedure waits and ends only with nothing of its own in the queue; `dirty` tells
whether something is there at the outset. -/
def Tidy : Procedure α → (dirty : Bool) → Prop
  | done _, dirty => dirty = false
  | fail _, dirty => dirty = false
  | ask request next, dirty =>
    (∀ ms, request = .wait ms → dirty = false) ∧
      ∀ reply, (next reply).Tidy (dirtyAfter dirty request)

theorem tidy_done (a : α) : (done a).Tidy false := rfl

theorem Tidy.bind {p : Procedure α} {f : α → Procedure β} (hp : p.Tidy dirty)
    (hf : ∀ a, (f a).Tidy false) : (p >>= f).Tidy dirty := by
  induction p generalizing dirty with
  | done a =>
    have hclean : dirty = false := hp
    rw [hclean]
    exact hf a
  | fail e => exact hp
  | ask request next ih => exact ⟨hp.1, fun reply => ih reply (hp.2 reply)⟩

theorem Tidy.attempt {p : Procedure α} (hp : p.Tidy dirty) : p.attempt.Tidy dirty := by
  induction p generalizing dirty with
  | done a => exact hp
  | fail e => exact hp
  | ask request next ih => exact ⟨hp.1, fun reply => ih reply (hp.2 reply)⟩

theorem tidy_ofExcept (r : Except Error α) : (ofExcept r).Tidy false := by
  cases r <;> rfl

theorem tidy_dispatch (dirty : Bool) : dispatch.Tidy dirty :=
  ⟨by rintro ms ⟨⟩, tidy_ofExcept⟩

theorem tidy_wait (ms : Nat) : (wait ms).Tidy false := ⟨fun _ _ => rfl, tidy_ofExcept⟩

theorem tidy_value (handle : Handle) : (value handle).Tidy false :=
  ⟨by rintro ms ⟨⟩, tidy_ofExcept⟩

theorem tidy_now : now.Tidy false := ⟨by rintro ms ⟨⟩, fun _ => rfl⟩

theorem tidy_wallClock : wallClock.Tidy false := ⟨by rintro ms ⟨⟩, fun _ => rfl⟩

/-- Writes are followed by their dispatch. -/
theorem tidy_send (pairs : List (String × UInt32)) (dirty : Bool) : (send pairs).Tidy dirty := by
  induction pairs generalizing dirty with
  | nil => exact tidy_dispatch dirty
  | cons pair rest ih => exact ⟨by rintro ms ⟨⟩, fun _ => ih true⟩

theorem tidy_reset (block : RegisterBlock) (leaves : List String) (value : UInt32)
    (dirty : Bool) : (block.reset leaves value).Tidy dirty := by
  induction leaves generalizing dirty with
  | nil => exact tidy_dispatch dirty
  | cons leaf rest ih => exact ⟨by rintro ms ⟨⟩, fun _ => ih true⟩

theorem tidy_fetch (block : RegisterBlock) (leaf : String) : (block.fetch leaf).Tidy false :=
  ⟨by rintro ms ⟨⟩, fun handle => (tidy_dispatch true).bind fun _ => tidy_value handle⟩

/-- Reads are tidy with what follows them if that is tidy however dirty the queue is. -/
theorem tidy_readAll_bind (block : RegisterBlock) (leaves : List String)
    {f : List (String × Handle) → Procedure β} (hf : ∀ handles dirty, (f handles).Tidy dirty)
    (dirty : Bool) : (block.readAll leaves >>= f).Tidy dirty := by
  induction leaves generalizing f dirty with
  | nil => exact hf [] dirty
  | cons leaf rest ih =>
    refine ⟨by rintro ms ⟨⟩, fun (handle : Handle) => ?_⟩
    show ((block.readAll rest >>= fun handles => done ((leaf, handle) :: handles)) >>= f).Tidy true
    rw [bind_assoc]
    exact ih (fun handles => hf ((leaf, handle) :: handles)) true

theorem sequential_tidy : Sequential fun _ p => p.Tidy false where
  done := tidy_done
  bind := Tidy.bind

theorem tidy_snapshot (block : RegisterBlock) (leaves : List String) (dirty : Bool) :
    (block.snapshot leaves).Tidy dirty :=
  tidy_readAll_bind block leaves (fun handles dirty => (tidy_dispatch dirty).bind fun _ =>
    (sequential_tidy.collect tidy_value handles .empty).bind fun _ => tidy_done _) dirty

/-- Exchanges, waits and polls are tidy, and so is everything that is put together from them. -/
theorem compositional_tidy : Compositional fun _ p => p.Tidy false where
  done _ := rfl
  fail _ _ := rfl
  bind := Tidy.bind
  handle hp hpass hok hlink :=
    hp.attempt.bind (forall_handler (P := (·.Tidy false)) (fun _ => rfl) hpass hok hlink)
  send pairs := tidy_send pairs false
  wait := tidy_wait
  wallClock := tidy_wallClock
  poll interval _ block leaf _ := sequential_tidy.pollUntil (tidy_wait interval) tidy_now
    ((tidy_fetch block leaf).bind fun _ => tidy_done _)
  stamps block := tidy_snapshot block _ false

/-- Every call is tidy. -/
theorem tidy_perform (design : Design) (settings : CalibrationSettings) (call : Design.Call) :
    (call.perform design settings).Tidy false :=
  Design.Call.compositional compositional_tidy design settings call fun _ _ htarget _ _ _ =>
    (compositional_tidy.release htarget).attempt.bind fun _ => rfl

/-- Both halves of a counter are read in one dispatch. -/
theorem tidy_read (counter : TimestampCounter) : counter.read.Tidy false := by
  refine ⟨by rintro ms ⟨⟩, fun high => ⟨by rintro ms ⟨⟩, fun low => ?_⟩⟩
  exact (tidy_dispatch true).bind fun _ => (tidy_value high).bind fun _ =>
    (tidy_value low).bind fun _ => tidy_done _

theorem tidy_sync (counter : TimestampCounter) (hz : UInt64) : (counter.sync hz).Tidy false :=
  tidy_wallClock.bind fun _ => (tidy_ofExcept _).bind fun word =>
    (tidy_send (counter.load word) false).bind fun _ => tidy_done word

/-- Every pulse of a command has its dispatch. -/
theorem tidy_commands (channels : CommandChannels) (command : FixedLengthCommand)
    (channel count : UInt32) : (channels.send command channel count).Tidy false := by
  have hpulses : ∀ path code count, (CommandChannels.pulses path code count).Tidy false := by
    intro path code count
    induction count with
    | zero => rfl
    | succ count ih =>
      exact ⟨by rintro ms ⟨⟩, fun _ => (tidy_dispatch true).bind fun _ => ih⟩
  unfold CommandChannels.send
  split
  · exact hpulses _ _ _
  · rfl

/-! ### Runs, request by request -/

/-- The requests of a run in order, each with the bench that it was made of. -/
def trace : Procedure α → Bench → List (Request × Bench)
  | done _, _ => []
  | fail _, _ => []
  | ask request next, bench =>
    (request, bench) :: (next (bench.answer request).1).trace (bench.answer request).2

/-- Whether a dispatch was attempted among these requests. -/
def hasDispatch (steps : List (Request × Bench)) : Bool := steps.any fun step => step.1 = .dispatch

/-- What becomes of the queue in a run that starts on `bench`. -/
structure Settles (p : Procedure α) (bench : Bench) : Prop where
  /-- At every wait the queue is empty, or what it was at the start if there was no dispatch yet. -/
  waits : ∀ before ms stop rest, p.trace bench = before ++ (.wait ms, stop) :: rest →
    stop.bus.queue = if hasDispatch before then [] else bench.bus.queue
  /-- The same holds at the end, whatever the result. -/
  ends : (p.run bench).2.bus.queue = if hasDispatch (p.trace bench) then [] else bench.bus.queue
  /-- The first dispatch finds what was queued at the start in front of the run's own accesses. It
  drops all of them, or commits all of them in this order. -/
  first : ∀ before stop rest, p.trace bench = before ++ (.dispatch, stop) :: rest →
    hasDispatch before = false →
    ∃ own, stop.bus.queue = bench.bus.queue ++ own ∧ stop.dispatch.2.bus.queue = [] ∧
      ((∃ message, stop.dispatch.1 = .error (.bus message) ∧
          stop.dispatch.2.bus.journal = bench.bus.journal) ∨
        (stop.dispatch.1 = .ok () ∧
          stop.dispatch.2.bus.journal = bench.bus.journal ++ bench.bus.flushed stop.clock ++
            Bus.entries stop.clock (bench.bus.flush stop.clock) own))

end Procedure

/-! ### The queue on the way -/

/-- What is known of the queue in a run that started on `start`: until a dispatch is attempted, only
accesses were added to it; afterwards it has nothing but accesses of the run. -/
inductive Bench.Midway (start : Bench) : (attempted dirty : Bool) → Bench → Prop
  | before {dirty : Bool} {bench : Bench} (own : List Queued) (slots : Array (Option UInt32))
      (bus : bench.bus = { start.bus with queue := start.bus.queue ++ own, slots })
      (clean : dirty = false → own = []) : Midway start false dirty bench
  | after {dirty : Bool} {bench : Bench} (clean : dirty = false → bench.bus.queue = []) :
      Midway start true dirty bench

namespace Bench.Midway

variable {α : Type} {start bench : Bench} {attempted dirty : Bool}

theorem refl (start : Bench) : Midway start false false start :=
  .before [] start.bus.slots (by rw [List.append_nil]) fun _ => rfl

theorem queue_eq (h : Midway start attempted false bench) :
    bench.bus.queue = if attempted then [] else start.bus.queue := by
  cases h with
  | before own slots bus clean => rw [bus, clean rfl, List.append_nil]; rfl
  | after clean => exact clean rfl

/-- How a request moves a run along. -/
theorem answer (h : Midway start attempted dirty bench) (request : Request) :
    Midway start (attempted || request = .dispatch) (dirtyAfter dirty request)
      (bench.answer request).2 := by
  by_cases hdispatch : request = .dispatch
  · subst hdispatch
    rw [decide_eq_true rfl, Bool.or_true]
    exact .after fun _ => bench.queue_dispatch
  rw [decide_eq_false hdispatch, Bool.or_false]
  -- Apart from dispatches, only reads and writes touch the register space.
  cases request with
  | dispatch => exact absurd rfl hdispatch
  | read path =>
    cases h with
    | after clean => exact .after (by rintro ⟨⟩)
    | before own slots bus clean =>
      obtain ⟨slot, hread⟩ : ∃ slot, (bench.bus.read path).2 =
          { bench.bus with
            queue := bench.bus.queue ++ [.read path slot]
            slots := bench.bus.slots.push none } := ⟨_, rfl⟩
      refine .before (own ++ [.read path slot]) (bench.bus.slots.push none) ?_ (by rintro ⟨⟩)
      refine hread.trans ?_
      rw [bus, ← List.append_assoc]
  | write path value =>
    cases h with
    | after clean => exact .after (by rintro ⟨⟩)
    | before own slots bus clean =>
      refine .before (own ++ [.write path value]) slots ?_ (by rintro ⟨⟩)
      show bench.bus.write path value = _
      rw [bus, ← List.append_assoc]
      rfl
  | wait ms =>
    have hbus : (bench.answer (.wait ms)).2.bus = bench.bus := bench.bus_wait ms
    cases h with
    | after clean => exact .after fun hclean => (congrArg Bus.queue hbus).trans (clean hclean)
    | before own slots bus clean => exact .before own slots (hbus.trans bus) clean
  | _ => exact h

/-- A tidy run is midway at every request, and clean at its waits and at its end. -/
theorem trace {p : Procedure α} (hp : p.Tidy dirty) (h : Midway start attempted dirty bench) :
    (∀ before request stop rest, p.trace bench = before ++ (request, stop) :: rest →
      ∃ dirty, Midway start (attempted || hasDispatch before) dirty stop ∧
        ∀ ms, request = .wait ms → dirty = false) ∧
      Midway start (attempted || hasDispatch (p.trace bench)) false (p.run bench).2 := by
  induction p generalizing bench attempted dirty with
  | done _ | fail _ =>
    have hclean : dirty = false := hp
    refine ⟨fun before request stop rest hsplit => ?_, ?_⟩
    · cases (List.append_eq_nil_iff.mp hsplit.symm).2
    · rw [Procedure.trace, hasDispatch, List.any_nil, Bool.or_false, ← hclean]
      exact h
  | ask request next ih =>
    obtain ⟨hsteps, hend⟩ := ih _ (hp.2 (bench.answer request).1) (h.answer request)
    have hdispatch : ∀ steps, hasDispatch ((request, bench) :: steps) =
        (decide (request = .dispatch) || hasDispatch steps) := fun _ => rfl
    refine ⟨fun before other stop rest hsplit => ?_, ?_⟩
    · rw [Procedure.trace] at hsplit
      cases before with
      | nil =>
        cases hsplit
        rw [hasDispatch, List.any_nil, Bool.or_false]
        exact ⟨dirty, h, hp.1⟩
      | cons step before =>
        rw [List.cons_append, List.cons.injEq] at hsplit
        obtain ⟨rfl, hrest⟩ := hsplit
        rw [hdispatch, ← Bool.or_assoc]
        exact hsteps before other stop rest hrest
    · rw [Procedure.trace, hdispatch, ← Bool.or_assoc]
      exact hend

end Bench.Midway

/-- A tidy procedure settles on every bench. -/
theorem Procedure.settles_of_tidy {α : Type} {p : Procedure α} (h : p.Tidy false) (bench : Bench) :
    p.Settles bench := by
  obtain ⟨hsteps, hend⟩ := (Bench.Midway.refl bench).trace h
  refine ⟨fun before ms stop rest hsplit => ?waits, hend.queue_eq,
    fun before stop rest hsplit hnone => ?first⟩
  case waits =>
    obtain ⟨dirty, hstop, hclean⟩ := hsteps before _ stop rest hsplit
    rw [hclean ms rfl] at hstop
    exact hstop.queue_eq
  case first =>
    obtain ⟨dirty, hstop, -⟩ := hsteps before _ stop rest hsplit
    rw [hnone] at hstop
    cases hstop with
    | before own slots bus clean =>
      have hqueue : stop.bus.queue = bench.bus.queue ++ own := by rw [bus]
      have hjournal : stop.bus.journal = bench.bus.journal := by rw [bus]; rfl
      refine ⟨own, hqueue, stop.queue_dispatch, ?_⟩
      rcases stop.dispatch_cases with ⟨message, -, hdispatch⟩ | ⟨-, hdispatch⟩
      · rw [hdispatch]
        exact Or.inl ⟨message, rfl, hjournal⟩
      · rw [hdispatch]
        refine Or.inr ⟨rfl, ?_⟩
        rw [Bench.journal_dispatched, hjournal, bus, List.append_assoc, ← Bus.flushed_append]
        exact congrArg (bench.bus.journal ++ ·) (Bus.flushed_withSlots
          { bench.bus with queue := bench.bus.queue ++ own } stop.clock slots)

/-! ### The calls -/

/-- No call of a design, of its master or of one of their blocks leaves an access of its own in the
queue of a bench. -/
structure Design.LeavesNothing (design : Design) (settings : CalibrationSettings) (bench : Bench) :
    Prop where
  perform : ∀ call, (Call.perform design settings call).Settles bench
  /-- A scanner can have any multiplexer. -/
  switchTo : ∀ mux channel waitForLock,
    ((MuxScanner.ofMaster design.master mux).switchTo channel waitForLock).Settles bench
  scan : ∀ mux count, ((MuxScanner.ofMaster design.master mux).scan count).Settles bench
  read : ∀ counter : TimestampCounter, counter.read.Settles bench
  set : ∀ (counter : TimestampCounter) word, (counter.set word).Settles bench
  sync : ∀ (counter : TimestampCounter) hz, (counter.sync hz).Settles bench
  send : ∀ (channels : CommandChannels) command channel count,
    (channels.send command channel count).Settles bench
  trip : ∀ trip : EchoTrip, trip.run.Settles bench
  enable : ∀ receiver : UpstreamReceiver, receiver.enable.Settles bench
  snapshot : ∀ (block : RegisterBlock) leaves, (block.snapshot leaves).Settles bench
  reset : ∀ (block : RegisterBlock) leaves value, (block.reset leaves value).Settles bench

/-- Whatever is queued, scripted or arranged to go wrong on a bench, no call leaves anything in the
queue once it has attempted a dispatch. -/
theorem Design.leavesNothing (design : Design) (settings : CalibrationSettings) (bench : Bench) :
    design.LeavesNothing settings bench where
  perform call := settles_of_tidy (tidy_perform design settings call) bench
  switchTo mux channel waitForLock :=
    settles_of_tidy (compositional_tidy.switchTo design.master mux channel waitForLock) bench
  scan mux count := settles_of_tidy (compositional_tidy.scan design.master mux count) bench
  read counter := settles_of_tidy (tidy_read counter) bench
  set counter word := settles_of_tidy (tidy_send (counter.load word) false) bench
  sync counter hz := settles_of_tidy (tidy_sync counter hz) bench
  send channels command channel count :=
    settles_of_tidy (tidy_commands channels command channel count) bench
  trip trip := settles_of_tidy (compositional_tidy.trip Tidy.attempt trip) bench
  enable receiver := settles_of_tidy (compositional_tidy.enable receiver) bench
  snapshot block leaves := settles_of_tidy (tidy_snapshot block leaves false) bench
  reset block leaves value := settles_of_tidy (tidy_reset block leaves value false) bench

end OpticalTiming
