import OpticalTiming.Bench

/-!
# Procedures

A `Procedure` is a recipe that acts on a bench by a sequence of requests: queue an access, dispatch,
use the value of a handle, wait, read a clock. It is a tree of requests in which the reply decides
how to go on, so what a procedure asks for can be stated of the tree alone, apart from any bench.
`Procedure.run` carries it out on a bench.

Procedures form a lawful monad, and running respects it: `run_bind` says that a sequence runs its
parts one after the other until one of them fails, `run_attempt` that `attempt` turns a failure into
a result without touching what was done before it. For each single request there is one equation
(`run_read` to `run_wallClock`) that says what it does to the bench.
-/

namespace OpticalTiming

/-- What a procedure can ask of a bench. -/
inductive Request where
  /-- Queue a read. -/
  | read (path : String)
  /-- Queue a write. -/
  | write (path : String) (value : UInt32)
  /-- Dispatch the queue. -/
  | dispatch
  /-- Use the value of a handle. -/
  | value (handle : Handle)
  /-- Let milliseconds pass. -/
  | wait (ms : Nat)
  /-- Read the clock of the bench. -/
  | now
  /-- Read the wall clock. -/
  | wallClock
  deriving Repr, DecidableEq

/-- The type of the reply to a request. A request that can be refused has an error in its reply. -/
def Request.Reply : Request → Type
  | read _ => Handle
  | write _ _ => Unit
  | dispatch => Except Error Unit
  | value _ => Except Error UInt32
  | wait _ => Except Error Unit
  | now => Nat
  | wallClock => UtcTime

/-- The reply of a bench to a request, and the bench after it. -/
def Bench.answer (bench : Bench) : (request : Request) → request.Reply × Bench
  | .read path =>
    let (handle, bus) := bench.bus.read path
    (handle, { bench with bus })
  | .write path value => ((), { bench with bus := bench.bus.write path value })
  | .dispatch => bench.dispatch
  | .value handle => (bench.bus.value handle, bench)
  | .wait ms => bench.wait ms
  | .now => (bench.clock, bench)
  | .wallClock => (bench.wallClock, bench)

/-- A tree of requests that ends with a result or an error. -/
inductive Procedure (α : Type) where
  | done (result : α)
  | fail (error : Error)
  | ask (request : Request) (next : request.Reply → Procedure α)

namespace Procedure

variable {α β γ : Type}

/-- Goes on with the result of a procedure. -/
def bind : Procedure α → (α → Procedure β) → Procedure β
  | done a, f => f a
  | fail e, _ => fail e
  | ask request next, f => ask request fun reply => (next reply).bind f

instance : Monad Procedure where
  pure := done
  bind := bind

/-- The procedure that fails where `p` fails, but with the error as its result. -/
def attempt : Procedure α → Procedure (Except Error α)
  | done a => done (.ok a)
  | fail e => done (.error e)
  | ask request next => ask request fun reply => (next reply).attempt

instance : MonadExceptOf Error Procedure where
  throw := fail
  tryCatch p handler := p.attempt >>= fun
    | .ok a => done a
    | .error e => handler e

/-- The procedure that asks for nothing and has the given result. -/
def ofExcept : Except Error α → Procedure α
  | .ok a => done a
  | .error e => fail e

instance : MonadLift (Except Error) Procedure where
  monadLift := ofExcept

/-! ### Single requests -/

/-- Queues a read of a register. -/
def read (path : String) : Procedure Handle := ask (.read path) done

/-- Queues a write to a register. -/
def write (path : String) (value : UInt32) : Procedure Unit := ask (.write path value) done

/-- Dispatches everything that is queued. -/
def dispatch : Procedure Unit := ask .dispatch ofExcept

/-- The value of a handle. -/
def value (handle : Handle) : Procedure UInt32 := ask (.value handle) ofExcept

/-- Waits for `ms` milliseconds. -/
def wait (ms : Nat) : Procedure Unit := ask (.wait ms) ofExcept

/-- The present time in milliseconds. -/
def now : Procedure Nat := ask .now done

/-- The present reading of the wall clock. -/
def wallClock : Procedure UtcTime := ask .wallClock done

/-! ### Running -/

/-- Carries out a procedure: its result or the error that ended it, and the bench afterwards. -/
def run : Procedure α → Bench → Except Error α × Bench
  | done a, bench => (.ok a, bench)
  | fail e, bench => (.error e, bench)
  | ask request next, bench =>
    let (reply, bench) := bench.answer request
    (next reply).run bench

/-! ### Laws -/

@[simp] theorem pure_eq (a : α) : (pure a : Procedure α) = done a := rfl

@[simp] theorem throw_eq (e : Error) : (throw e : Procedure α) = fail e := rfl

@[simp] theorem done_bind (a : α) (f : α → Procedure β) : (done a >>= f) = f a := rfl

@[simp] theorem fail_bind (e : Error) (f : α → Procedure β) : (fail e >>= f) = fail e := rfl

@[simp]
theorem ask_bind (request : Request) (next : request.Reply → Procedure α) (f : α → Procedure β) :
    (ask request next >>= f) = ask request fun reply => next reply >>= f := rfl

theorem bind_done (p : Procedure α) : (p >>= done) = p := by
  induction p with
  | done a => rfl
  | fail e => rfl
  | ask request next ih => simp only [ask_bind, ih]

theorem bind_assoc (p : Procedure α) (f : α → Procedure β) (g : β → Procedure γ) :
    (p >>= f >>= g) = p >>= fun a => f a >>= g := by
  induction p with
  | done a => rfl
  | fail e => rfl
  | ask request next ih => simp only [ask_bind, ih]

instance : LawfulMonad Procedure :=
  LawfulMonad.mk' _ bind_done (fun _ _ => rfl) bind_assoc

@[simp] theorem run_done (a : α) (bench : Bench) : (done a).run bench = (.ok a, bench) := rfl

@[simp]
theorem run_fail (e : Error) (bench : Bench) :
    (fail e : Procedure α).run bench = (.error e, bench) := rfl

@[simp]
theorem run_ask (request : Request) (next : request.Reply → Procedure α) (bench : Bench) :
    (ask request next).run bench =
      (next (bench.answer request).1).run (bench.answer request).2 := rfl

/-- A sequence runs its second part on the result and the bench of the first, unless the first one
fails. -/
theorem run_bind (p : Procedure α) (f : α → Procedure β) (bench : Bench) :
    (p >>= f).run bench =
      match p.run bench with
      | (.ok a, bench) => (f a).run bench
      | (.error e, bench) => (.error e, bench) := by
  induction p generalizing bench with
  | done a => rfl
  | fail e => rfl
  | ask request next ih => simp only [ask_bind, run_ask, ih]

/-- An attempt does what the procedure does, and its result says how that ended. -/
theorem run_attempt (p : Procedure α) (bench : Bench) :
    p.attempt.run bench = (.ok (p.run bench).1, (p.run bench).2) := by
  induction p generalizing bench with
  | done a => rfl
  | fail e => rfl
  | ask request next ih => simp only [attempt, run_ask, ih]

/-- Handling an error runs the handler on the bench that the failed procedure left. -/
theorem run_tryCatch (p : Procedure α) (handler : Error → Procedure α) (bench : Bench) :
    (tryCatch p handler).run bench =
      match p.run bench with
      | (.ok a, bench) => (.ok a, bench)
      | (.error e, bench) => (handler e).run bench := by
  have hcatch : tryCatch p handler = p.attempt >>= fun
      | .ok a => done a
      | .error e => handler e := rfl
  rw [hcatch, run_bind, run_attempt]
  rcases p.run bench with ⟨a | e, bench⟩ <;> rfl

@[simp]
theorem run_ofExcept (r : Except Error α) (bench : Bench) :
    (ofExcept r).run bench = (r, bench) := by
  cases r <;> rfl

/-! ### Running single requests -/

@[simp]
theorem run_read (path : String) (bench : Bench) :
    (read path).run bench =
      (.ok (bench.bus.read path).1, { bench with bus := (bench.bus.read path).2 }) := rfl

@[simp]
theorem run_write (path : String) (value : UInt32) (bench : Bench) :
    (write path value).run bench = (.ok (), { bench with bus := bench.bus.write path value }) := rfl

@[simp]
theorem run_dispatch (bench : Bench) : dispatch.run bench = bench.dispatch :=
  run_ofExcept bench.dispatch.1 bench.dispatch.2

@[simp]
theorem run_value (handle : Handle) (bench : Bench) :
    (value handle).run bench = (bench.bus.value handle, bench) :=
  run_ofExcept (bench.bus.value handle) bench

@[simp]
theorem run_wait (ms : Nat) (bench : Bench) : (wait ms).run bench = bench.wait ms :=
  run_ofExcept (bench.wait ms).1 (bench.wait ms).2

@[simp]
theorem run_now (bench : Bench) : now.run bench = (.ok bench.clock, bench) := rfl

@[simp]
theorem run_wallClock (bench : Bench) : wallClock.run bench = (.ok bench.wallClock, bench) := rfl

end Procedure

end OpticalTiming
