import OpticalTiming.Procedure.Basic
import OpticalTiming.Proofs.Flush

/-!
# What a procedure commits

`Procedure.commits` is what a run of a procedure adds to the journal. A sequence commits what its
first part does and then, if that part succeeds, what its second part does (`commits_bind`).

`Bench.Leads` holds between a bench and every later one: the journal, the clock and the number of
dispatches only grow, and what was added lies between the two in both numbers. `leads_run` is the
run lemma, from which `mem_commits` and `fault_of_run` follow.
-/

namespace OpticalTiming

open Procedure

/-! ### Dispatching at a bench -/

namespace Bench

/-- The bench after a failed dispatch. -/
def dropQueue (bench : Bench) : Bench :=
  { bench with bus := { bench.bus with queue := [], fault := none } }

/-- The bench after a successful dispatch. -/
def dispatched (bench : Bench) : Bench :=
  { bench with
    bus := { bench.bus.flush bench.clock with fault := bench.bus.fault.map Fault.tick }
    token := bench.token.afterDispatch }

/-- A dispatch fails if its failure is due, and commits the queue in any other case. -/
theorem dispatch_cases (bench : Bench) :
    (∃ message, bench.bus.fault = some { remaining := 0, message } ∧
      bench.dispatch = (.error (.bus message), bench.dropQueue)) ∨
    ((∀ message, bench.bus.fault ≠ some { remaining := 0, message }) ∧
      bench.dispatch = (.ok (), bench.dispatched)) := by
  rcases bench.bus.dispatch_cases bench.clock with ⟨message, hfault, hbus⟩ | ⟨hnone, hbus⟩
  · exact Or.inl ⟨message, hfault, by rw [dispatch, hbus]; rfl⟩
  · exact Or.inr ⟨hnone, by rw [dispatch, hbus]; rfl⟩

theorem journal_dispatched (bench : Bench) :
    bench.dispatched.bus.journal = bench.bus.journal ++ bench.bus.flushed bench.clock :=
  bench.bus.journal_flush

@[simp]
theorem queue_dispatched (bench : Bench) : bench.dispatched.bus.queue = [] :=
  Bus.queue_flush bench.bus

/-- A dispatch leaves nothing in the queue, whether it fails or not. -/
theorem queue_dispatch (bench : Bench) : bench.dispatch.2.bus.queue = [] := by
  rcases bench.dispatch_cases with ⟨message, -, h⟩ | ⟨-, h⟩ <;> rw [h]
  · rfl
  · exact bench.queue_dispatched

@[simp]
theorem dispatches_dispatched (bench : Bench) :
    bench.dispatched.bus.dispatches = bench.bus.dispatches + 1 :=
  Bus.dispatches_flush bench.bus

@[simp]
theorem unfilled_dispatched (bench : Bench) :
    bench.dispatched.bus.unfilled = bench.bus.unfilled :=
  Bus.unfilled_flush bench.bus

/-- A wait moves the clock or leaves it, and may cancel the token; it does nothing else. -/
theorem wait_cases (bench : Bench) (ms : Nat) :
    bench.wait ms = (.error .cancelled, bench) ∨
    bench.wait ms = (.ok (), { bench with clock := bench.clock + waitLength ms }) ∨
    ∃ deadline, bench.wait ms = (.error .cancelled, bench.cancelAt deadline) := by
  unfold wait
  split
  · exact Or.inl rfl
  · split
    case isTrue hms =>
      refine Or.inr (Or.inl ?_)
      rw [hms]
      rfl
    case isFalse =>
      split
      · exact Or.inr (Or.inl rfl)
      · split
        · exact Or.inr (Or.inr ⟨_, rfl⟩)
        · exact Or.inr (Or.inl rfl)

/-- A wait is granted, or it is refused as cancelled. -/
theorem reply_wait (bench : Bench) (ms : Nat) :
    (bench.wait ms).1 = .ok () ∨ (bench.wait ms).1 = .error .cancelled := by
  rcases bench.wait_cases ms with h | h | ⟨deadline, h⟩ <;> simp [h]

theorem eq_cancelled_of_wait {bench : Bench} {ms : Nat} {e : Error}
    (h : (bench.wait ms).1 = .error e) : e = .cancelled := by
  rcases bench.reply_wait ms with hreply | hreply <;> rw [hreply] at h <;> cases h
  rfl

@[simp]
theorem bus_wait (bench : Bench) (ms : Nat) : (bench.wait ms).2.bus = bench.bus := by
  rcases bench.wait_cases ms with h | h | ⟨deadline, h⟩ <;> rw [h]
  rfl

/-! ### Earlier and later benches -/

/-- What any run keeps: nothing is taken from the journal, clock and dispatch count do not go back,
and whatever was added to the journal belongs to a dispatch and a time in between. No run arms a
failure or changes which registers are left unfilled. -/
structure Leads (bench after : Bench) : Prop where
  journal : ∃ accesses, after.bus.journal = bench.bus.journal ++ accesses ∧
    ∀ a ∈ accesses, (bench.bus.dispatches < a.dispatch ∧ a.dispatch ≤ after.bus.dispatches) ∧
      bench.clock ≤ a.time ∧ a.time ≤ after.clock
  clock_le : bench.clock ≤ after.clock
  dispatches_le : bench.bus.dispatches ≤ after.bus.dispatches
  unfilled : after.bus.unfilled = bench.bus.unfilled
  fault : bench.bus.fault = none → after.bus.fault = none

namespace Leads

/-- A bench that differs in nothing that `Leads` speaks of. -/
theorem of_same {bench after : Bench} (hjournal : after.bus.journal = bench.bus.journal)
    (hclock : bench.clock ≤ after.clock) (hnumber : after.bus.dispatches = bench.bus.dispatches)
    (hunfilled : after.bus.unfilled = bench.bus.unfilled)
    (hfault : bench.bus.fault = none → after.bus.fault = none) : Leads bench after where
  journal := ⟨[], by rw [hjournal, List.append_nil], fun _ h => (by cases h)⟩
  clock_le := hclock
  dispatches_le := Nat.le_of_eq hnumber.symm
  unfilled := hunfilled
  fault := hfault

theorem refl (bench : Bench) : Leads bench bench :=
  of_same rfl (Nat.le_refl _) rfl rfl id

theorem trans {first second third : Bench} (h : Leads first second) (h' : Leads second third) :
    Leads first third := by
  obtain ⟨added, hadded, hwindow⟩ := h.journal
  obtain ⟨added', hadded', hwindow'⟩ := h'.journal
  refine ⟨⟨added ++ added', by rw [hadded', hadded, List.append_assoc], ?_⟩,
    Nat.le_trans h.clock_le h'.clock_le, Nat.le_trans h.dispatches_le h'.dispatches_le,
    h'.unfilled.trans h.unfilled, fun hnone => h'.fault (h.fault hnone)⟩
  intro a ha
  -- Either step's window lies within the window of both steps together.
  have hclock := h.clock_le
  have hclock' := h'.clock_le
  have hnumber := h.dispatches_le
  have hnumber' := h'.dispatches_le
  rcases List.mem_append.mp ha with ha | ha
  · have := hwindow a ha
    omega
  · have := hwindow' a ha
    omega

theorem dispatched (bench : Bench) : Leads bench bench.dispatched := by
  refine ⟨⟨_, bench.journal_dispatched, ?_⟩, Nat.le_refl _, ?_, unfilled_dispatched bench, ?_⟩
  · intro a ha
    obtain ⟨hnumber, htime, -⟩ := Bus.mem_flushed ha
    rw [dispatches_dispatched, hnumber, htime]
    exact ⟨⟨Nat.lt_succ_self _, Nat.le_refl _⟩, Nat.le_refl _, Nat.le_refl _⟩
  · rw [dispatches_dispatched]
    exact Nat.le_succ _
  · intro hnone
    exact congrArg (Option.map Fault.tick) hnone

/-- The reply to a request leads from the bench before it to the bench after it. -/
theorem answer (bench : Bench) (request : Request) : Leads bench (bench.answer request).2 := by
  cases request with
  | read path => exact of_same rfl (Nat.le_refl _) rfl rfl id
  | write path value => exact of_same rfl (Nat.le_refl _) rfl rfl id
  | dispatch =>
    show Leads bench bench.dispatch.2
    rcases bench.dispatch_cases with ⟨message, -, h⟩ | ⟨-, h⟩ <;> rw [h]
    · exact of_same rfl (Nat.le_refl _) rfl rfl fun _ => rfl
    · exact dispatched bench
  | value handle => exact refl bench
  | wait ms =>
    show Leads bench (bench.wait ms).2
    rcases bench.wait_cases ms with h | h | ⟨deadline, h⟩ <;> rw [h]
    · exact refl bench
    · exact of_same rfl (Nat.le_add_right _ _) rfl rfl id
    · exact of_same rfl (Nat.le_max_left _ _) rfl rfl id
  | now => exact refl bench
  | wallClock => exact refl bench

end Leads

end Bench

/-! ### What a run adds to the journal -/

namespace Procedure

variable {α β : Type}

/-- What running a procedure adds to the journal, in order. -/
def commits (p : Procedure α) (bench : Bench) : List Access :=
  (p.run bench).2.bus.journalFrom bench.bus.journal.length

/-- A relation between benches that every reply respects is respected by every run. -/
theorem run_rel {R : Bench → Bench → Prop} (refl : ∀ bench, R bench bench)
    (trans : ∀ {first second third}, R first second → R second third → R first third)
    (answer : ∀ bench request, R bench (bench.answer request).2) (p : Procedure α)
    (bench : Bench) : R bench (p.run bench).2 := by
  induction p generalizing bench with
  | done a => exact refl bench
  | fail e => exact refl bench
  | ask request next ih => exact trans (answer bench request) (ih _ _)

/-- Any run leads from the bench before it to the bench after it. -/
theorem leads_run (p : Procedure α) (bench : Bench) : bench.Leads (p.run bench).2 :=
  run_rel Bench.Leads.refl Bench.Leads.trans Bench.Leads.answer p bench

theorem journal_run (p : Procedure α) (bench : Bench) :
    (p.run bench).2.bus.journal = bench.bus.journal ++ p.commits bench := by
  obtain ⟨accesses, hadded, -⟩ := (p.leads_run bench).journal
  rw [commits, Bus.journalFrom, hadded, List.drop_left]

/-- What a run commits lies between its start and its end, in dispatch number and in time. -/
theorem mem_commits {p : Procedure α} {bench : Bench} {a : Access} (ha : a ∈ p.commits bench) :
    (bench.bus.dispatches < a.dispatch ∧ a.dispatch ≤ (p.run bench).2.bus.dispatches) ∧
      bench.clock ≤ a.time ∧ a.time ≤ (p.run bench).2.clock := by
  obtain ⟨accesses, hadded, hwindow⟩ := (p.leads_run bench).journal
  rw [commits, Bus.journalFrom, hadded, List.drop_left] at ha
  exact hwindow a ha

/-- No run arms a failure. -/
theorem fault_of_run {p : Procedure α} {bench after : Bench} {result : Except Error α}
    (hrun : p.run bench = (result, after)) (hfault : bench.bus.fault = none) :
    after.bus.fault = none := by
  have hleads := (p.leads_run bench).fault hfault
  rwa [hrun] at hleads

/-- What a run commits is known once the journal after it is known. -/
theorem commits_eq {p : Procedure α} {bench : Bench} {accesses : List Access}
    (h : (p.run bench).2.bus.journal = bench.bus.journal ++ accesses) :
    p.commits bench = accesses := by
  rw [journal_run] at h
  exact List.append_cancel_left h

@[simp]
theorem commits_done (a : α) (bench : Bench) : (done a).commits bench = [] :=
  commits_eq (List.append_nil _).symm

@[simp]
theorem commits_fail (e : Error) (bench : Bench) : (fail e : Procedure α).commits bench = [] :=
  commits_eq (List.append_nil _).symm

@[simp]
theorem commits_ofExcept (r : Except Error α) (bench : Bench) :
    (ofExcept r).commits bench = [] := by
  cases r
  · exact commits_fail _ bench
  · exact commits_done _ bench

@[simp]
theorem commits_wait (ms : Nat) (bench : Bench) : (wait ms).commits bench = [] := by
  apply commits_eq
  rw [run_wait, List.append_nil, bench.bus_wait]

@[simp]
theorem commits_now (bench : Bench) : now.commits bench = [] :=
  commits_eq (List.append_nil _).symm

@[simp]
theorem commits_wallClock (bench : Bench) : wallClock.commits bench = [] :=
  commits_eq (List.append_nil _).symm

/-- A sequence commits what its first part does, and then what its second part does, unless the
first one fails. -/
theorem commits_bind (p : Procedure α) (f : α → Procedure β) (bench : Bench) :
    (p >>= f).commits bench = p.commits bench ++
      match p.run bench with
      | (.ok a, after) => (f a).commits after
      | (.error _, _) => [] := by
  apply commits_eq
  rw [run_bind, ← List.append_assoc, ← journal_run]
  rcases p.run bench with ⟨e | a, after⟩
  · exact (List.append_nil _).symm
  · exact journal_run (f a) after

/-- A sequence whose first part succeeds goes on with the second. -/
theorem run_bind_of_ok {p : Procedure α} {bench after : Bench} {a : α}
    (h : p.run bench = (.ok a, after)) (f : α → Procedure β) :
    (p >>= f).run bench = (f a).run after := by
  rw [run_bind, h]

/-- A sequence whose first part fails has failed. -/
theorem run_bind_of_error {p : Procedure α} {bench after : Bench} {e : Error}
    (h : p.run bench = (.error e, after)) (f : α → Procedure β) :
    (p >>= f).run bench = (.error e, after) := by
  rw [run_bind, h]

theorem run_attempt_of_run {p : Procedure α} {bench after : Bench} {result : Except Error α}
    (h : p.run bench = (result, after)) : p.attempt.run bench = (.ok result, after) := by
  rw [run_attempt, h]

theorem commits_bind_of_ok {p : Procedure α} {bench after : Bench} {a : α}
    (h : p.run bench = (.ok a, after)) (f : α → Procedure β) :
    (p >>= f).commits bench = p.commits bench ++ (f a).commits after := by
  rw [commits_bind, h]

theorem commits_bind_of_error {p : Procedure α} {bench after : Bench} {e : Error}
    (h : p.run bench = (.error e, after)) (f : α → Procedure β) :
    (p >>= f).commits bench = p.commits bench := by
  rw [commits_bind, h, List.append_nil]

/-- A sequence that succeeds has succeeded in both of its parts. -/
theorem exists_of_run_bind_ok {p : Procedure α} {f : α → Procedure β} {bench after : Bench} {b : β}
    (h : (p >>= f).run bench = (.ok b, after)) :
    ∃ a middle, p.run bench = (.ok a, middle) ∧ (f a).run middle = (.ok b, after) ∧
      (p >>= f).commits bench = p.commits bench ++ (f a).commits middle := by
  cases hp : p.run bench with
  | mk result middle =>
    cases result with
    | error e =>
      rw [run_bind_of_error hp] at h
      cases h
    | ok a =>
      rw [run_bind_of_ok hp] at h
      exact ⟨a, middle, rfl, h, commits_bind_of_ok hp f⟩

theorem commits_ask (request : Request) (next : request.Reply → Procedure α) (bench : Bench) :
    (ask request next).commits bench = (ask request done).commits bench ++
      (next (bench.answer request).1).commits (bench.answer request).2 :=
  commits_bind (ask request done) next bench

/-- A single request commits nothing, or, if it is a dispatch that succeeds, the queue. -/
theorem commits_answer (request : Request) (bench : Bench) :
    (ask request done).commits bench = [] ∨
      (ask request done).commits bench = bench.bus.flushed bench.clock := by
  -- Only a dispatch touches the journal; a wait has to be looked at because it may end early.
  cases request with
  | dispatch =>
    rcases bench.dispatch_cases with ⟨message, -, h⟩ | ⟨-, h⟩
    · left
      apply commits_eq
      show bench.dispatch.2.bus.journal = _
      rw [h]
      exact (List.append_nil _).symm
    · right
      apply commits_eq
      show bench.dispatch.2.bus.journal = _
      rw [h]
      exact bench.journal_dispatched
  | wait ms =>
    left
    apply commits_eq
    show (bench.wait ms).2.bus.journal = _
    rw [bench.bus_wait, List.append_nil]
  | _ => exact Or.inl (commits_eq (List.append_nil _).symm)

/-- What a procedure commits was queued before its first request, or it comes after that. -/
theorem mem_commits_ask {request : Request} {next : request.Reply → Procedure α} {bench : Bench}
    {a : Access} (ha : a ∈ (ask request next).commits bench) :
    (∃ queued ∈ bench.bus.queue, queued.IsDoneBy a) ∨
      a ∈ (next (bench.answer request).1).commits (bench.answer request).2 := by
  rw [commits_ask] at ha
  rcases List.mem_append.mp ha with ha | ha
  · left
    rcases commits_answer request bench with h | h
    · rw [h] at ha
      cases ha
    · rw [h] at ha
      exact (Bus.mem_flushed ha).2.2
  · exact Or.inr ha

/-- An attempt commits what the procedure does. -/
@[simp]
theorem commits_attempt (p : Procedure α) (bench : Bench) :
    p.attempt.commits bench = p.commits bench := by
  apply commits_eq
  rw [run_attempt]
  exact journal_run p bench

end Procedure

end OpticalTiming
