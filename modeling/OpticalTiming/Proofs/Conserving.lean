import Mathlib.Logic.Function.Iterate
import OpticalTiming.Proofs.Flush

/-!
# What becomes of every queued access

A register space is used by calls of its operations, in any order. A history is a list of such
calls on a new register space, `Bus.ofHistory` the register space that it leads to. `Ledger` keeps the
account of a history: every attempt to dispatch with what was queued since the attempt before it,
and what is still pending.

`conserved_history` says that the account always balances. The journal is what the successful
attempts had been asked for, in order, under the numbers of these attempts; whatever is in neither
the journal nor the queue was dropped by an attempt that failed. An attempt fails where `failAfter`
has arranged it, and nowhere else.
-/

namespace OpticalTiming

/-- An access as it is asked for. What a read will return is not known yet. -/
inductive Ask where
  | read (path : String)
  | write (path : String) (value : UInt32)
  deriving Repr, DecidableEq

/-- What a queued access asks for. -/
def Queued.ask : Queued → Ask
  | .read path _ => .read path
  | .write path value => .write path value

/-- What a journaled access was asked for. -/
def Access.ask (a : Access) : Ask :=
  match a.kind with
  | .read => .read a.path
  | .write => .write a.path a.value

/-- All that is known of a journaled access before it is carried out: the number and the time of its
dispatch, and what it was asked for. -/
def Access.stamp (a : Access) : Nat × Nat × Ask := (a.dispatch, a.time, a.ask)

/-- What is left of a failure to come once a dispatch was attempted: a failure that was due is
over. -/
def Fault.rest? : Fault → Option Fault
  | { remaining := 0, .. } => none
  | { remaining := n + 1, message } => some { remaining := n, message }

namespace Bus

/-! ### Histories -/

/-- A call of an operation of a register space. -/
inductive Operation where
  | setRegister (path : String) (value : UInt32)
  | scriptReads (path : String) (values : List UInt32)
  | onWrite (path : String) (hook : Hook)
  | failAfter (successful : Nat) (message : String)
  | leaveUnfilled (paths : List String)
  | fill (handle : Handle) (value : UInt32)
  | read (path : String)
  | write (path : String) (value : UInt32)
  | dispatch (time : Nat)

namespace Operation

/-- The register space after a call. -/
def act (bus : Bus) : Operation → Bus
  | setRegister path value => bus.setRegister path value
  | scriptReads path values => bus.scriptReads path values
  | onWrite path hook => bus.onWrite path hook
  | failAfter successful message => bus.failAfter successful message
  | leaveUnfilled paths => bus.leaveUnfilled paths
  | fill handle value => bus.fill handle value
  | read path => (bus.read path).2
  | write path value => bus.write path value
  | dispatch time => (bus.dispatch time).2

/-- The access that a call queues, if it queues one. -/
def ask? : Operation → Option Ask
  | read path => some (.read path)
  | write path value => some (.write path value)
  | _ => none

/-- Whether a call attempts a dispatch. -/
def isDispatch : Operation → Bool
  | dispatch _ => true
  | _ => false

/-- Whether a call arranges for a dispatch to fail. -/
def arms : Operation → Bool
  | failAfter _ _ => true
  | _ => false

end Operation

/-- The register space to which a history leads. -/
def ofHistory (history : List Operation) : Bus := history.foldl Operation.act {}

/-! ### The account of a history -/

/-- An attempt to dispatch: what was asked for since the attempt before it, and how it ended. -/
structure Attempt where
  asks : List Ask
  time : Nat
  result : Except Error Unit

namespace Attempt

/-- Whether an attempt to dispatch was successful. -/
def succeeded (attempt : Attempt) : Bool := attempt.result.isOk

/-- What the attempts that failed had been asked for. -/
def dropped (attempts : List Attempt) : List Ask :=
  (attempts.filter fun attempt => !attempt.succeeded).flatMap asks

/-- What an attempt with a given number had been asked for, with this number and its time. -/
def stamps (attempt : Attempt) (number : Nat) : List (Nat × Nat × Ask) :=
  attempt.asks.map fun ask => (number, attempt.time, ask)

/-- What the successful attempts had been asked for, in order. These attempts are numbered from
1. -/
def committed (attempts : List Attempt) : List (Nat × Nat × Ask) :=
  ((attempts.filter succeeded).zipIdx 1).flatMap fun numbered => numbered.1.stamps numbered.2

end Attempt

/-- A register space with the account of the calls that led to it. -/
structure Ledger where
  bus : Bus := {}
  /-- The attempts to dispatch, in order. -/
  attempts : List Attempt := []
  /-- What was asked for since the last attempt. -/
  pending : List Ask := []

namespace Ledger

/-- The account after one more call. -/
def enter (ledger : Ledger) : Operation → Ledger
  | .dispatch time =>
    { bus := (ledger.bus.dispatch time).2
      attempts := ledger.attempts ++
        [{ asks := ledger.pending, time, result := (ledger.bus.dispatch time).1 }]
      pending := [] }
  | operation =>
    { ledger with
      bus := operation.act ledger.bus
      pending := ledger.pending ++ operation.ask?.toList }

/-- The account of a history. -/
def ofHistory (history : List Operation) : Ledger := history.foldl enter {}

end Ledger

/-- The attempts to dispatch in a history. -/
def attempts (history : List Operation) : List Attempt := (Ledger.ofHistory history).attempts

/-- The account of a history balances. -/
structure Conserved (history : List Operation) : Prop where
  /-- What was queued is in the journal, was dropped by an attempt that failed, or is in the queue,
  and in only one of them. -/
  fates : (history.filterMap Operation.ask?).Perm
    ((ofHistory history).journal.map Access.ask ++ Attempt.dropped (attempts history) ++
      (ofHistory history).queue.map Queued.ask)
  /-- The attempts and the queue have it in the order in which it was queued. -/
  order : history.filterMap Operation.ask? =
    (attempts history).flatMap Attempt.asks ++ (ofHistory history).queue.map Queued.ask
  /-- The journal is what the successful attempts had been asked for, under their numbers. -/
  journal : (ofHistory history).journal.map Access.stamp = Attempt.committed (attempts history)
  /-- The successful attempts are counted. -/
  dispatches : (ofHistory history).dispatches = (attempts history).countP Attempt.succeeded
  /-- An attempt that fails now drops the queue, disarms the failure and changes nothing else. -/
  refused : ∀ time e next, (ofHistory history).dispatch time = (.error e, next) →
    (∃ message, (ofHistory history).fault = some { remaining := 0, message } ∧ e = .bus message) ∧
      next = { ofHistory history with queue := [], fault := none }
  /-- With a failure armed, an attempt now fails if just as many attempts were made since then as
  were to be let through, whatever was armed before. -/
  armed : ∀ before successful message since,
    history = before ++ .failAfter successful message :: since →
    (∀ operation ∈ since, operation.arms = false) →
    ∀ time, ((ofHistory history).dispatch time).1 =
      if since.countP Operation.isDispatch = successful then .error (.bus message) else .ok ()
  /-- With no failure ever armed, an attempt now is successful. -/
  unarmed : (∀ operation ∈ history, operation.arms = false) →
    ∀ time, ((ofHistory history).dispatch time).1 = .ok ()

/-! ### One call -/

section

variable {bus : Bus} {ledger : Ledger} {operation : Operation}

/-- What a dispatch commits carries its number and its time, and is what was queued. -/
theorem stamp_flushed (bus : Bus) (time : Nat) :
    (bus.flushed time).map Access.stamp =
      bus.queue.map fun queued => (bus.dispatches + 1, time, queued.ask) := by
  have hentries : ∀ (queue : List Queued) (start : Bus),
      (entries time start queue).map Access.stamp =
        queue.map fun queued => (start.dispatches, time, queued.ask) := by
    intro queue
    induction queue with
    | nil => exact fun _ => rfl
    | cons queued rest ih =>
      intro start
      have hentry : (start.entry time queued).stamp = (start.dispatches, time, queued.ask) := by
        cases queued <;> rfl
      rw [entries, List.map_cons, ih, dispatches_commit, hentry, List.map_cons]
  exact hentries bus.queue _

/-- Apart from dispatches, no call touches the journal or the count of dispatches, and the queue
grows by what the call asks for. -/
theorem act_of_not_isDispatch (h : operation.isDispatch = false) (bus : Bus) :
    (operation.act bus).queue.map Queued.ask = bus.queue.map Queued.ask ++ operation.ask?.toList ∧
      (operation.act bus).journal = bus.journal ∧
      (operation.act bus).dispatches = bus.dispatches := by
  cases operation with
  | dispatch time => cases h
  | read path => exact ⟨List.map_append, rfl, rfl⟩
  | write path value => exact ⟨List.map_append, rfl, rfl⟩
  | _ => exact ⟨(List.append_nil _).symm, rfl, rfl⟩

/-- A call that arms nothing leaves a failure to come alone, unless it attempts a dispatch. -/
theorem fault_act (h : operation.arms = false) (bus : Bus) :
    (operation.act bus).fault =
      if operation.isDispatch then bus.fault.bind Fault.rest? else bus.fault := by
  cases operation with
  | failAfter successful message => cases h
  | dispatch time =>
    show (bus.dispatch time).2.fault = bus.fault.bind Fault.rest?
    rcases bus.dispatch_cases time with ⟨message, hfault, hdispatch⟩ | ⟨hnone, hdispatch⟩
    · rw [hdispatch, hfault]
      rfl
    · rw [hdispatch]
      cases hfault : bus.fault with
      | none => rfl
      | some fault =>
        obtain ⟨_ | n, message⟩ := fault
        · exact absurd hfault (hnone message)
        · rfl
  | _ => rfl

/-- The account balances: the queue is what is pending, and the journal is what was committed. -/
structure Ledger.Balanced (ledger : Ledger) : Prop where
  queue : ledger.bus.queue.map Queued.ask = ledger.pending
  journal : ledger.bus.journal.map Access.stamp = Attempt.committed ledger.attempts
  dispatches : ledger.bus.dispatches = ledger.attempts.countP Attempt.succeeded

/-- The account after a call that attempts no dispatch. -/
theorem Ledger.enter_of_not_isDispatch (h : operation.isDispatch = false) (ledger : Ledger) :
    ledger.enter operation =
      { ledger with
        bus := operation.act ledger.bus
        pending := ledger.pending ++ operation.ask?.toList } := by
  cases operation with
  | dispatch time => cases h
  | _ => rfl

/-- An attempt that failed commits nothing. -/
theorem Attempt.committed_append_of_failed {attempts : List Attempt} {attempt : Attempt}
    (h : attempt.succeeded = false) : committed (attempts ++ [attempt]) = committed attempts := by
  rw [committed, List.filter_append, List.filter_cons_of_neg (by rw [h]; exact Bool.false_ne_true),
    List.filter_nil, List.append_nil]
  rfl

/-- A successful attempt has the number that follows those of the successful ones before it. -/
theorem Attempt.committed_append_of_succeeded {attempts : List Attempt} {attempt : Attempt}
    (h : attempt.succeeded = true) :
    committed (attempts ++ [attempt]) =
      committed attempts ++ attempt.stamps (attempts.countP succeeded + 1) := by
  rw [committed, List.filter_append, List.filter_cons_of_pos h, List.filter_nil,
    List.zipIdx_append, List.flatMap_append, ← List.countP_eq_length_filter, committed,
    Nat.add_comm 1]
  exact congrArg (_ ++ ·) (List.append_nil _)

/-- What was committed is what the successful attempts had been asked for. -/
theorem Attempt.asks_committed (attempts : List Attempt) :
    (committed attempts).map (fun stamp => stamp.2.2) =
      (attempts.filter succeeded).flatMap asks := by
  have hasks : ∀ numbered : Attempt × Nat,
      (numbered.1.stamps numbered.2).map (fun stamp => stamp.2.2) = numbered.1.asks :=
    fun _ => List.map_map.trans (List.map_id _)
  rw [committed, List.map_flatMap, funext hasks, ← List.flatMap_map Prod.fst asks,
    List.zipIdx_map_fst]

/-- An attempt is successful or it drops what it was asked for. -/
theorem Attempt.perm_asks (attempts : List Attempt) :
    (attempts.flatMap asks).Perm
      ((attempts.filter succeeded).flatMap asks ++ dropped attempts) := by
  rw [dropped, ← List.flatMap_append]
  exact (List.filter_append_perm succeeded attempts).symm.flatMap_right asks

/-- A call keeps the account balanced. -/
theorem Ledger.Balanced.enter (h : ledger.Balanced) (operation : Operation) :
    (ledger.enter operation).Balanced := by
  cases hkind : operation.isDispatch with
  | false =>
    obtain ⟨hqueue, hjournal, hnumber⟩ := act_of_not_isDispatch hkind ledger.bus
    rw [Ledger.enter_of_not_isDispatch hkind]
    refine ⟨?_, ?_, ?_⟩
    · rw [← h.queue]
      exact hqueue
    · exact (congrArg (List.map Access.stamp) hjournal).trans h.journal
    · exact hnumber.trans h.dispatches
  | true =>
    obtain ⟨time, rfl⟩ : ∃ time, operation = .dispatch time := by
      cases operation with
      | dispatch time => exact ⟨time, rfl⟩
      | _ => cases hkind
    rcases ledger.bus.dispatch_cases time with ⟨message, -, hdispatch⟩ | ⟨-, hdispatch⟩
    · -- The attempt failed, and only the queue is gone.
      rw [Ledger.enter, hdispatch]
      refine ⟨rfl, ?_, ?_⟩
      · rw [Attempt.committed_append_of_failed rfl]
        exact h.journal
      · rw [List.countP_append]
        exact h.dispatches
    · -- The attempt was successful, and what was pending is now in the journal.
      have hjournal : (ledger.bus.flush time).journal.map Access.stamp =
          ledger.bus.journal.map Access.stamp ++
            ledger.pending.map fun ask => (ledger.bus.dispatches + 1, time, ask) := by
        rw [journal_flush, List.map_append, stamp_flushed, ← h.queue, List.map_map]
        rfl
      rw [Ledger.enter, hdispatch]
      refine ⟨?_, ?_, ?_⟩
      · exact congrArg (List.map Queued.ask) (queue_flush _)
      · rw [Attempt.committed_append_of_succeeded rfl, ← h.journal, ← h.dispatches]
        exact hjournal
      · rw [List.countP_append, ← h.dispatches]
        exact dispatches_flush _

end

/-! ### A whole history -/

section

variable (history : List Operation)

/-- The account of a history is about the register space to which it leads. -/
theorem Ledger.bus_ofHistory : (Ledger.ofHistory history).bus = Bus.ofHistory history := by
  have hfold : ∀ (history : List Operation) (ledger : Ledger),
      (history.foldl Ledger.enter ledger).bus = history.foldl Operation.act ledger.bus := by
    intro history
    induction history with
    | nil => exact fun _ => rfl
    | cons operation rest ih =>
      intro ledger
      rw [List.foldl_cons, ih, List.foldl_cons]
      cases operation <;> rfl
  exact hfold history {}

/-- The account of every history balances. -/
theorem Ledger.balanced_ofHistory : (Ledger.ofHistory history).Balanced :=
  List.foldlRecOn history Ledger.enter ⟨rfl, rfl, rfl⟩ fun _ h operation _ => h.enter operation

/-- The account forgets nothing that was asked for. -/
theorem asks_ofHistory :
    (attempts history).flatMap Attempt.asks ++ (Ledger.ofHistory history).pending =
      history.filterMap Operation.ask? := by
  have hfold : ∀ (history : List Operation) (ledger : Ledger),
      (history.foldl Ledger.enter ledger).attempts.flatMap Attempt.asks ++
          (history.foldl Ledger.enter ledger).pending =
        ledger.attempts.flatMap Attempt.asks ++ ledger.pending ++
          history.filterMap Operation.ask? := by
    intro history
    induction history with
    | nil => exact fun _ => (List.append_nil _).symm
    | cons operation rest ih =>
      intro ledger
      rw [List.foldl_cons, ih, List.filterMap_cons]
      cases operation with
      | dispatch time => simp [Ledger.enter, Operation.ask?]
      | _ => simp [Ledger.enter, Operation.ask?]
  exact hfold history {}

/-- The journal is what the successful attempts had been asked for. -/
theorem asks_journal :
    (ofHistory history).journal.map Access.ask =
      ((attempts history).filter Attempt.succeeded).flatMap Attempt.asks := by
  rw [← Attempt.asks_committed, attempts, ← (Ledger.balanced_ofHistory history).journal,
    Ledger.bus_ofHistory, List.map_map]
  rfl

/-- A failure is due after just as many attempts as were to be let through. -/
theorem iterate_rest?_eq_due_iff {count n : Nat} {message due : String} :
    (fun fault => fault.bind Fault.rest?)^[count] (some { remaining := n, message }) =
        some { remaining := 0, message := due } ↔
      count = n ∧ message = due := by
  induction count generalizing n with
  | zero => simp [eq_comm]
  | succ count ih =>
    rw [Function.iterate_succ_apply]
    cases n with
    | zero =>
      have hnone : (fun fault => fault.bind Fault.rest?)^[count] none = none :=
        Function.iterate_fixed rfl count
      show (fun fault => fault.bind Fault.rest?)^[count] none = _ ↔ _
      rw [hnone]
      simp
    | succ n =>
      show (fun fault => fault.bind Fault.rest?)^[count] (some { remaining := n, message }) = _ ↔ _
      rw [ih]
      simp

/-- Calls that arm nothing leave a failure to come to the attempts among them. -/
theorem fault_foldl_act {since : List Operation} (h : ∀ operation ∈ since, operation.arms = false)
    (bus : Bus) :
    (since.foldl Operation.act bus).fault =
      (fun fault => fault.bind Fault.rest?)^[since.countP Operation.isDispatch] bus.fault := by
  induction since generalizing bus with
  | nil => rfl
  | cons operation rest ih =>
    obtain ⟨hfirst, hrest⟩ := List.forall_mem_cons.mp h
    rw [List.foldl_cons, ih hrest, fault_act hfirst]
    cases hkind : operation.isDispatch with
    | false => rw [List.countP_cons_of_neg (by rw [hkind]; exact Bool.false_ne_true)]; rfl
    | true => rw [List.countP_cons_of_pos hkind, Function.iterate_succ_apply]; rfl

end

/-- The account of every history balances: nothing that is queued is lost or doubled, and what an
attempt that fails had been asked for leaves no trace. -/
theorem conserved_history (history : List Operation) : Conserved history := by
  have hbus := Ledger.bus_ofHistory history
  obtain ⟨hqueue, hjournal, hdispatches⟩ := Ledger.balanced_ofHistory history
  rw [hbus] at hqueue hjournal hdispatches
  have horder := asks_ofHistory history
  rw [← hqueue] at horder
  refine ⟨?fates, horder.symm, hjournal, hdispatches, ?refused, ?armed, ?unarmed⟩
  case fates =>
    rw [← horder, asks_journal]
    exact (Attempt.perm_asks (attempts history)).append_right _
  case refused => exact fun time e next => eq_of_dispatch_error
  case armed =>
    rintro before successful message since rfl hsince time
    -- What the fault was before the last call of `failAfter` makes no difference.
    have hfault : (ofHistory (before ++ .failAfter successful message :: since)).fault =
        (fun fault => fault.bind Fault.rest?)^[since.countP Operation.isDispatch]
          (some { remaining := successful, message }) := by
      rw [ofHistory, List.foldl_append, List.foldl_cons, fault_foldl_act hsince]
      rfl
    rcases (ofHistory (before ++ .failAfter successful message :: since)).dispatch_cases time with
      ⟨due, hdue, hdispatch⟩ | ⟨hnone, hdispatch⟩
    · obtain ⟨hcount, rfl⟩ := iterate_rest?_eq_due_iff.mp (hfault.symm.trans hdue)
      rw [hdispatch, if_pos hcount]
    · rw [hdispatch, if_neg]
      intro hcount
      exact hnone message (hfault.trans (iterate_rest?_eq_due_iff.mpr ⟨hcount, rfl⟩))
  case unarmed =>
    intro hnone time
    have hfault := fault_foldl_act hnone {}
    rw [Function.iterate_fixed rfl] at hfault
    rcases (ofHistory history).dispatch_cases time with ⟨message, hdue, -⟩ | ⟨-, hdispatch⟩
    · cases hdue.symm.trans hfault
    · rw [hdispatch]

end Bus

end OpticalTiming
