import OpticalTiming.Proofs.Refusing

/-!
# The dispatches of a run

`Procedure.issues` lists the benches on which a run issues its dispatches, each of them just before
the dispatch. As long as no dispatch fails, the `k`-th of them has seen exactly what the first `k`
dispatches of the run commit (`Bench.Issued`, `issued_of_getElem?`). Such runs are followed by
`calm_induction`.

`Bench.failing` is a bench on which a failure is armed. A failure that is due after the last
dispatch of a run goes unnoticed (`run_failing_of_le`). Any other one cuts the run off at the
dispatch that fails, and only what the procedure does after a refusal follows
(`exists_run_failing`); if the procedure escalates, nothing does (`run_failing_of_escalates`).
-/

namespace OpticalTiming

open Procedure

namespace Procedure

variable {α β : Type}

/-- The benches on which a run issues its dispatches, in order. -/
def issues : Procedure α → Bench → List Bench
  | done _, _ => []
  | fail _, _ => []
  | ask request next, bench =>
    (if request = .dispatch then [bench] else []) ++
      (next (bench.answer request).1).issues (bench.answer request).2

theorem issues_ask_of_ne {request : Request} (h : request ≠ .dispatch)
    (next : request.Reply → Procedure α) (bench : Bench) :
    (ask request next).issues bench =
      (next (bench.answer request).1).issues (bench.answer request).2 := by
  rw [issues, if_neg h, List.nil_append]

@[simp]
theorem issues_ofExcept (r : Except Error α) (bench : Bench) : (ofExcept r).issues bench = [] := by
  cases r <;> rfl

@[simp]
theorem issues_wait (ms : Nat) (bench : Bench) : (wait ms).issues bench = [] :=
  issues_ofExcept (bench.wait ms).1 (bench.wait ms).2

/-- A sequence issues the dispatches of its first part, and then those of its second part, unless
the first one fails. -/
theorem issues_bind (p : Procedure α) (f : α → Procedure β) (bench : Bench) :
    (p >>= f).issues bench = p.issues bench ++
      match p.run bench with
      | (.ok a, after) => (f a).issues after
      | (.error _, _) => [] := by
  induction p generalizing bench with
  | done a => rfl
  | fail e => rfl
  | ask request next ih => rw [ask_bind, issues, ih, issues, run_ask, List.append_assoc]

theorem issues_bind_of_ok {p : Procedure α} {bench after : Bench} {a : α}
    (h : p.run bench = (.ok a, after)) (f : α → Procedure β) :
    (p >>= f).issues bench = p.issues bench ++ (f a).issues after := by
  rw [issues_bind, h]

theorem issues_bind_of_error {p : Procedure α} {bench after : Bench} {e : Error}
    (h : p.run bench = (.error e, after)) (f : α → Procedure β) :
    (p >>= f).issues bench = p.issues bench := by
  rw [issues_bind, h, List.append_nil]

/-- What follows without a dispatch adds none. -/
theorem issues_bind_of_nil (p : Procedure α) {f : α → Procedure β}
    (hf : ∀ a after, (f a).issues after = []) (bench : Bench) :
    (p >>= f).issues bench = p.issues bench := by
  cases hrun : p.run bench with
  | mk result after =>
    cases result with
    | error e => exact issues_bind_of_error hrun f
    | ok a => rw [issues_bind_of_ok hrun, hf, List.append_nil]

/-- An attempt issues the dispatches of the procedure. -/
@[simp]
theorem issues_attempt (p : Procedure α) (bench : Bench) :
    p.attempt.issues bench = p.issues bench := by
  induction p generalizing bench with
  | done a => rfl
  | fail e => rfl
  | ask request next ih => rw [attempt, issues, ih, issues]

/-- A dispatch is issued even if it is refused. -/
@[simp]
theorem issues_dispatch (bench : Bench) : dispatch.issues bench = [bench] :=
  congrArg (bench :: ·) (issues_ofExcept bench.dispatch.1 bench.dispatch.2)

@[simp]
theorem issues_value (handle : Handle) (bench : Bench) : (value handle).issues bench = [] :=
  issues_ofExcept (bench.answer (.value handle)).1 bench

/-- Writes that are sent are issued together, behind what is queued already. -/
theorem issues_send (pairs : List (String × UInt32)) (bench : Bench) :
    (send pairs).issues bench = [bench.enqueue (pairs.map .ofPair)] := by
  have hwrites : ∀ start : Bench,
      (pairs.forM fun pair => write pair.1 pair.2).issues start = [] := by
    induction pairs with
    | nil => exact fun _ => rfl
    | cons pair rest ih => exact fun start => ih _
  rw [send, issues_bind_of_ok (run_forM_write pairs bench), hwrites, List.nil_append,
    issues_dispatch]

/-- A look at a register is issued alone, whatever becomes of it. -/
theorem issues_check (block : RegisterBlock) (leaf : String) (accept : UInt32 → Bool)
    (bench : Bench) :
    (block.check leaf accept).issues bench = [block.reading bench [leaf]] := by
  have hfetch : (block.fetch leaf).issues bench = [block.reading bench [leaf]] := by
    refine (issues_bind_of_ok (block.run_read_leaf leaf bench) _).trans ?_
    exact (issues_bind_of_nil dispatch (fun _ => issues_value _) _).trans (issues_dispatch _)
  exact (issues_bind_of_nil _ (fun _ _ => rfl) bench).trans hfetch

end Procedure

/-! ### Parts of a list of accesses -/

namespace Access

variable {p : Access → Bool} {first later : List Access}

theorem filter_append_left (hfirst : ∀ a ∈ first, p a) (hlater : ∀ a ∈ later, ¬ p a) :
    (first ++ later).filter p = first := by
  rw [List.filter_append, List.filter_eq_self.mpr hfirst, List.filter_eq_nil_iff.mpr hlater,
    List.append_nil]

theorem filter_append_right (hfirst : ∀ a ∈ first, ¬ p a) :
    (first ++ later).filter p = later.filter p := by
  rw [List.filter_append, List.filter_eq_nil_iff.mpr hfirst, List.nil_append]

end Access

/-! ### Single requests -/

namespace Bench

/-- A bench without a failure to come grants every dispatch. -/
theorem answer_dispatch_of_fault_none {bench : Bench} (h : bench.bus.fault = none) :
    bench.answer .dispatch = (.ok (), bench.dispatched) := by
  rcases bench.dispatch_cases with ⟨message, hfault, -⟩ | ⟨-, hdispatch⟩
  · rw [h] at hfault
    cases hfault
  · exact hdispatch

/-- Apart from dispatches, no request touches the journal, the count of dispatches or a failure to
come. -/
theorem answer_of_ne_dispatch {request : Request} (h : request ≠ .dispatch) (bench : Bench) :
    (bench.answer request).2.bus.journal = bench.bus.journal ∧
      (bench.answer request).2.bus.dispatches = bench.bus.dispatches ∧
      (bench.answer request).2.bus.fault = bench.bus.fault := by
  cases request with
  | dispatch => exact absurd rfl h
  | wait ms =>
    show (bench.wait ms).2.bus.journal = _ ∧ (bench.wait ms).2.bus.dispatches = _ ∧
      (bench.wait ms).2.bus.fault = _
    rw [bench.bus_wait]
    exact ⟨rfl, rfl, rfl⟩
  | _ => exact ⟨rfl, rfl, rfl⟩

/-- What is known of a bench on which a run from `start` issues the dispatch with the number `k`,
counted from zero, if the run commits `accesses`: no dispatch has failed so far, and the accesses of
the first `k` dispatches are in the journal. -/
structure Issued (start : Bench) (accesses : List Access) (k : Nat) (bench : Bench) : Prop where
  fault : bench.bus.fault = none
  dispatches : bench.bus.dispatches = start.bus.dispatches + k
  journal : bench.bus.journal = start.bus.journal ++
    accesses.filter fun a => a.dispatch ≤ start.bus.dispatches + k
  /-- The accesses of the next dispatch are what the bench has queued, committed now. -/
  next : accesses.filter (fun a => a.dispatch = start.bus.dispatches + k + 1) =
    bench.bus.flushed bench.clock

variable {start stop : Bench} {later : List Access} {k : Nat}

/-- The first dispatch of a run is issued on the bench that it starts from. -/
theorem Issued.first (hfault : start.bus.fault = none)
    (hlater : ∀ a ∈ later, start.bus.dispatches + 1 < a.dispatch) :
    start.Issued (start.bus.flushed start.clock ++ later) 0 start := by
  have hfirst : ∀ a ∈ start.bus.flushed start.clock, a.dispatch = start.bus.dispatches + 1 :=
    fun a ha => (Bus.mem_flushed ha).1
  refine ⟨hfault, rfl, ?_, ?_⟩
  · have hnone : (start.bus.flushed start.clock ++ later).filter
        (fun a => a.dispatch ≤ start.bus.dispatches + 0) = [] := by
      rw [List.filter_eq_nil_iff]
      intro a ha
      rw [decide_eq_true_eq]
      rcases List.mem_append.mp ha with ha | ha
      · have := hfirst a ha
        omega
      · have := hlater a ha
        omega
    rw [hnone, List.append_nil]
  · apply Access.filter_append_left
    · exact fun a ha => decide_eq_true (hfirst a ha)
    · intro a ha
      have := hlater a ha
      rw [decide_eq_true_eq]
      omega

/-- A dispatch is issued one place later in a run that begins with one dispatch more. -/
theorem Issued.succ (h : start.dispatched.Issued later k stop) :
    start.Issued (start.bus.flushed start.clock ++ later) (k + 1) stop := by
  have hfirst : ∀ a ∈ start.bus.flushed start.clock, a.dispatch = start.bus.dispatches + 1 :=
    fun a ha => (Bus.mem_flushed ha).1
  have hsum : start.dispatched.bus.dispatches + k = start.bus.dispatches + (k + 1) := by
    rw [start.dispatches_dispatched]
    omega
  obtain ⟨hfault, hnumber, hjournal, hnext⟩ := h
  rw [hsum] at hnumber hjournal hnext
  refine ⟨hfault, hnumber, ?_, ?_⟩
  · rw [hjournal, start.journal_dispatched, List.append_assoc, List.filter_append]
    refine congrArg (_ ++ ·) (congrArg (· ++ _) (List.filter_eq_self.mpr ?_).symm)
    intro a ha
    have := hfirst a ha
    rw [decide_eq_true_eq]
    omega
  · rw [← hnext]
    apply Access.filter_append_right
    intro a ha
    have := hfirst a ha
    rw [decide_eq_true_eq]
    omega

end Bench

/-! ### Runs without a failure -/

namespace Procedure

variable {α : Type} {bench stop : Bench} {k : Nat}

theorem commits_ask_of_ne {request : Request} (h : request ≠ .dispatch)
    (next : request.Reply → Procedure α) (bench : Bench) :
    (ask request next).commits bench =
      (next (bench.answer request).1).commits (bench.answer request).2 := by
  apply commits_eq
  rw [run_ask, journal_run, (Bench.answer_of_ne_dispatch h bench).1]

/-- A dispatch without a failure to come, and what follows it. -/
theorem ask_dispatch_of_fault_none (hfault : bench.bus.fault = none)
    (next : Except Error Unit → Procedure α) :
    (ask .dispatch next).run bench = (next (.ok ())).run bench.dispatched ∧
      (ask .dispatch next).issues bench = bench :: (next (.ok ())).issues bench.dispatched ∧
      (ask .dispatch next).commits bench =
        bench.bus.flushed bench.clock ++ (next (.ok ())).commits bench.dispatched := by
  have hdispatch : bench.dispatch = (.ok (), bench.dispatched) :=
    Bench.answer_dispatch_of_fault_none hfault
  have hrun : (ask .dispatch next).run bench = (next (.ok ())).run bench.dispatched := by
    show (next bench.dispatch.1).run bench.dispatch.2 = _
    rw [hdispatch]
  refine ⟨hrun, ?_, commits_eq ?_⟩
  · show bench :: (next bench.dispatch.1).issues bench.dispatch.2 = _
    rw [hdispatch]
  · rw [hrun, journal_run, bench.journal_dispatched, List.append_assoc]

theorem fault_dispatched (hfault : bench.bus.fault = none) : bench.dispatched.bus.fault = none :=
  congrArg (Option.map Fault.tick) hfault

/-- Induction along the runs from benches without a failure to come: every dispatch is granted, and
no other request arms a failure. -/
@[elab_as_elim]
theorem calm_induction
    {motive : (p : Procedure α) → (bench : Bench) → bench.bus.fault = none → Prop}
    (done : ∀ a bench hfault, motive (.done a) bench hfault)
    (fail : ∀ e bench hfault, motive (.fail e) bench hfault)
    (dispatch : ∀ next bench hfault,
      motive (next (.ok ())) bench.dispatched (fault_dispatched hfault) →
        motive (.ask .dispatch next) bench hfault)
    (other : ∀ request next bench hfault (hother : request ≠ .dispatch),
      motive (next (bench.answer request).1) (bench.answer request).2
          ((Bench.answer_of_ne_dispatch hother bench).2.2.trans hfault) →
        motive (.ask request next) bench hfault)
    (p : Procedure α) (bench : Bench) (hfault : bench.bus.fault = none) :
    motive p bench hfault := by
  induction p generalizing bench with
  | done a => exact done a bench hfault
  | fail e => exact fail e bench hfault
  | ask request next ih =>
    by_cases hdispatch : request = .dispatch
    · subst hdispatch
      exact dispatch next bench hfault (ih _ _ _)
    · exact other request next bench hfault hdispatch (ih _ _ _)

/-- Every dispatch of a run without failures counts. -/
theorem dispatches_run (p : Procedure α) (hfault : bench.bus.fault = none) :
    (p.run bench).2.bus.dispatches = bench.bus.dispatches + (p.issues bench).length := by
  induction p, bench, hfault using calm_induction with
  | done a bench hfault => rfl
  | fail e bench hfault => rfl
  | dispatch next bench hfault ih =>
    obtain ⟨hrun, hissues, -⟩ := ask_dispatch_of_fault_none hfault next
    rw [bench.dispatches_dispatched] at ih
    rw [hrun, hissues, ih, List.length_cons]
    omega
  | other request next bench hfault hother ih =>
    rw [run_ask, issues_ask_of_ne hother, ih, (Bench.answer_of_ne_dispatch hother bench).2.1]

/-- Each dispatch of a run without failures is issued on a bench that has seen those before it. -/
theorem issued_of_getElem? (p : Procedure α) (hfault : bench.bus.fault = none)
    (hstop : (p.issues bench)[k]? = some stop) : bench.Issued (p.commits bench) k stop := by
  induction p, bench, hfault using calm_induction generalizing k with
  | done a bench hfault => cases hstop
  | fail e bench hfault => cases hstop
  | dispatch next bench hfault ih =>
    obtain ⟨-, hissues, hcommits⟩ := ask_dispatch_of_fault_none hfault next
    rw [hissues] at hstop
    rw [hcommits]
    cases k with
    | zero =>
      obtain rfl : bench = stop := Option.some.inj hstop
      refine .first hfault fun a ha => ?_
      have hnumber := (mem_commits ha).1.1
      rwa [bench.dispatches_dispatched] at hnumber
    | succ k => exact (ih hstop).succ
  | other request next bench hfault hother ih =>
    obtain ⟨hjournal, hnumber, -⟩ := Bench.answer_of_ne_dispatch hother bench
    rw [issues_ask_of_ne hother] at hstop
    have hissued := ih hstop
    rw [commits_ask_of_ne hother]
    exact ⟨hissued.fault, by rw [hissued.dispatches, hnumber],
      by rw [hissued.journal, hjournal, hnumber], by rw [← hissued.next, hnumber]⟩

end Procedure

/-! ### Runs with a failure to come -/

namespace Bench

/-- A bench on which `k` more dispatches succeed and the next one fails. -/
def failing (bench : Bench) (k : Nat) (message : String) : Bench :=
  { bench with bus := bench.bus.failAfter k message }

theorem wait_withBus (bench : Bench) (bus : Bus) (ms : Nat) :
    ({ bench with bus } : Bench).wait ms =
      ((bench.wait ms).1, { (bench.wait ms).2 with bus }) := by
  cases hdeadline : bench.token.deadline with
  | none =>
    simp only [wait, hdeadline]
    split
    · rfl
    · split <;> rfl
  | some deadline =>
    simp only [wait, hdeadline]
    split
    · rfl
    · split
      · rfl
      · split <;> rfl

theorem answer_failing_of_ne {request : Request} (h : request ≠ .dispatch) (bench : Bench) (k : Nat)
    (message : String) :
    (bench.failing k message).answer request =
      ((bench.answer request).1, (bench.answer request).2.failing k message) := by
  cases request with
  | dispatch => exact absurd rfl h
  | wait ms =>
    show (bench.failing k message).wait ms =
      ((bench.wait ms).1, (bench.wait ms).2.failing k message)
    rw [failing, wait_withBus, failing, bench.bus_wait]
  | _ => rfl

theorem dispatch_failing_succ (bench : Bench) (k : Nat) (message : String) :
    (bench.failing (k + 1) message).dispatch = (.ok (), bench.dispatched.failing k message) := by
  have hflush : ({ bench.bus with fault := some ⟨k, message⟩ } : Bus).flush bench.clock =
      { bench.bus.flush bench.clock with fault := some ⟨k, message⟩ } :=
    bench.bus.flush_withFault (some ⟨k, message⟩)
  show ((.ok (), { bench with
    bus := ({ bench.bus with fault := some ⟨k, message⟩ } : Bus).flush bench.clock
    token := bench.token.afterDispatch }) : Except Error Unit × Bench) = _
  rw [hflush]
  rfl

end Bench

namespace Procedure

variable {α : Type} {bench stop : Bench} {k : Nat}

/-- As long as the failure is not due, a dispatch is granted. -/
theorem run_ask_dispatch_failing (next : Except Error Unit → Procedure α) (bench : Bench) (k : Nat)
    (message : String) :
    (ask .dispatch next).run (bench.failing (k + 1) message) =
      (next (.ok ())).run (bench.dispatched.failing k message) := by
  show (next (bench.failing (k + 1) message).dispatch.1).run
    (bench.failing (k + 1) message).dispatch.2 = _
  rw [Bench.dispatch_failing_succ]

/-- A failure that is due after the last dispatch of a run goes unnoticed. -/
theorem run_failing_of_le (p : Procedure α) (message : String) (hfault : bench.bus.fault = none)
    (hk : (p.issues bench).length ≤ k) :
    p.run (bench.failing k message) = ((p.run bench).1,
      (p.run bench).2.failing (k - (p.issues bench).length) message) := by
  induction p, bench, hfault using calm_induction generalizing k with
  | done a bench hfault => rfl
  | fail e bench hfault => rfl
  | dispatch next bench hfault ih =>
    obtain ⟨hrun, hissues, -⟩ := ask_dispatch_of_fault_none hfault next
    rw [hissues, List.length_cons] at hk
    obtain ⟨k, rfl⟩ : ∃ left, k = left + 1 := ⟨k - 1, by omega⟩
    rw [run_ask_dispatch_failing next, ih (Nat.le_of_succ_le_succ hk), hrun, hissues,
      List.length_cons, Nat.add_sub_add_right]
  | other request next bench hfault hother ih =>
    rw [issues_ask_of_ne hother] at hk ⊢
    rw [run_ask, run_ask, Bench.answer_failing_of_ne hother]
    exact ih hk

/-- A failure that is due at a dispatch of a run cuts the run off there, and the rest is what the
procedure does after the refusal. -/
theorem exists_run_failing {p : Procedure α} {message : String} {Q : Procedure α → Prop}
    (hp : p.After (.bus message) Q) (hfault : bench.bus.fault = none)
    (hstop : (p.issues bench)[k]? = some stop) :
    ∃ q, Q q ∧ p.run (bench.failing k message) = q.run stop.dropQueue := by
  induction p, bench, hfault using calm_induction generalizing k with
  | done a bench hfault => cases hstop
  | fail e bench hfault => cases hstop
  | dispatch next bench hfault ih =>
    obtain ⟨-, hissues, -⟩ := ask_dispatch_of_fault_none hfault next
    rw [hissues] at hstop
    cases k with
    | zero =>
      obtain rfl : bench = stop := Option.some.inj hstop
      exact ⟨_, (hp (.error (.bus message))).1 rfl, rfl⟩
    | succ k =>
      rw [run_ask_dispatch_failing next]
      exact ih (hp _).2 hstop
  | other request next bench hfault hother ih =>
    rw [issues_ask_of_ne hother] at hstop
    rw [run_ask, Bench.answer_failing_of_ne hother]
    exact ih (hp _).2 hstop

/-- A procedure that escalates ends with the dispatch that fails. -/
theorem run_failing_of_escalates {p : Procedure α} {message : String}
    (hp : p.Escalates (.bus message)) (hfault : bench.bus.fault = none)
    (hstop : (p.issues bench)[k]? = some stop) :
    p.run (bench.failing k message) = (.error (.bus message), stop.dropQueue) := by
  obtain ⟨q, rfl, hrun⟩ := exists_run_failing hp hfault hstop
  exact hrun

/-- What a run that is cut off has committed is what its first dispatches commit. -/
theorem commits_failing {p : Procedure α} {message : String} {result : Except Error α}
    (hfault : bench.bus.fault = none) (hstop : (p.issues bench)[k]? = some stop)
    (hrun : p.run (bench.failing k message) = (result, stop.dropQueue)) :
    p.commits (bench.failing k message) =
      (p.commits bench).filter fun a => a.dispatch ≤ bench.bus.dispatches + k := by
  apply commits_eq
  rw [hrun]
  exact (p.issued_of_getElem? hfault hstop).journal

end Procedure

end OpticalTiming
