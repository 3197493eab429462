import OpticalTiming.Bus.Hook
import OpticalTiming.Error

/-!
# A register space with batched access

Reads and writes are queued and take effect together when the queue is dispatched. A read hands
out a `Handle`, whose value is there once a dispatch has carried the read out. Every access that a
dispatch commits is entered in a journal with the number of the dispatch and the time.

A register space has three ways to stand in for a device: registers react to writes through hooks,
reads of a register can follow a script before they fall back to its content, and one dispatch to
come can be made to fail.
-/

namespace OpticalTiming

/-- The direction of a register access. -/
inductive AccessKind where
  | read
  | write
  deriving Repr, DecidableEq

/-- A register access that a dispatch has committed. -/
structure Access where
  /-- The number of the dispatch, counted from 1. -/
  dispatch : Nat
  kind : AccessKind
  path : String
  /-- The value that was read or written. -/
  value : UInt32
  /-- The time of the dispatch in milliseconds. -/
  time : Nat
  deriving Repr, DecidableEq

/-- The promise of a read: the register it is for, and the slot that will hold its value. -/
structure Handle where
  path : String
  index : Nat
  deriving Repr, DecidableEq

/-- A queued access. A read fills the slot of its handle, if it has one. -/
inductive Queued where
  | read (path : String) (slot : Option Nat)
  | write (path : String) (value : UInt32)
  deriving Repr, DecidableEq

/-- A dispatch that will fail. -/
structure Fault where
  /-- How many dispatches succeed before. -/
  remaining : Nat
  message : String
  deriving Repr, DecidableEq

/-- A register space. -/
structure Bus where
  registers : RegisterFile := .empty
  /-- Values that the next reads of a register return instead of its content. -/
  scripts : NameMap (List UInt32) := .empty
  /-- The hooks of each register, in the order in which they run. -/
  hooks : NameMap (List AttachedHook) := .empty
  /-- What the next dispatch will commit, in order. -/
  queue : List Queued := []
  /-- What was committed so far, the latest first. -/
  log : List Access := []
  /-- The number of successful dispatches. -/
  dispatches : Nat := 0
  fault : Option Fault := none
  /-- The values of the reads that were handed out; absent until the read is carried out. -/
  slots : Array (Option UInt32) := #[]
  /-- Registers whose reads hand out a handle that no dispatch fills. -/
  unfilled : List String := []

namespace Bus

/-! ### Setting up a device -/

/-- Stores a value in a register at once, past queue and journal. -/
def setRegister (bus : Bus) (path : String) (value : UInt32) : Bus :=
  { bus with registers := bus.registers.set path value }

/-- The script of a register: what its next reads return. -/
def script (bus : Bus) (path : String) : List UInt32 := (bus.scripts.get? path).getD []

/-- Lets further reads of a register return the given values in order. -/
def scriptReads (bus : Bus) (path : String) (values : List UInt32) : Bus :=
  { bus with scripts := bus.scripts.set path (bus.script path ++ values) }

/-- The hooks of a register. -/
def hooksOf (bus : Bus) (path : String) : List AttachedHook := (bus.hooks.get? path).getD []

/-- Adds a hook behind those that a register has. -/
def onWrite (bus : Bus) (path : String) (hook : Hook) : Bus :=
  { bus with hooks := bus.hooks.set path (bus.hooksOf path ++ [{ react := hook }]) }

/-- Lets `successful` more dispatches through and fails the next one, in place of any failure that
was arranged before. -/
def failAfter (bus : Bus) (successful : Nat) (message : String) : Bus :=
  { bus with fault := some { remaining := successful, message } }

/-- Sets the registers whose reads are carried out without filling their handles. -/
def leaveUnfilled (bus : Bus) (paths : List String) : Bus := { bus with unfilled := paths }

/-- Empties the journal. -/
def clearJournal (bus : Bus) : Bus := { bus with log := [] }

/-! ### Queueing -/

/-- Queues a read and hands out its handle. -/
def read (bus : Bus) (path : String) : Handle × Bus :=
  let index := bus.slots.size
  let slot := if bus.unfilled.contains path then none else some index
  ({ path, index },
    { bus with queue := bus.queue ++ [.read path slot], slots := bus.slots.push none })

/-- Queues a write. -/
def write (bus : Bus) (path : String) (value : UInt32) : Bus :=
  { bus with queue := bus.queue ++ [.write path value] }

/-- Whether the value of a handle is there. -/
def isReady (bus : Bus) (handle : Handle) : Bool := (bus.slots[handle.index]?.join).isSome

/-- The value of a handle; using it before its read is carried out is an error. -/
def value (bus : Bus) (handle : Handle) : Except Error UInt32 :=
  match bus.slots[handle.index]?.join with
  | some value => .ok value
  | none => .error (.notDispatched handle.path)

/-- Fills a slot that is still empty; a filled one keeps its value. -/
def fillSlot (slots : Array (Option UInt32)) (index : Nat) (value : UInt32) :
    Array (Option UInt32) :=
  slots.modify index fun old => some (old.getD value)

/-- Gives a handle a value by hand, unless it has one already. -/
def fill (bus : Bus) (handle : Handle) (value : UInt32) : Bus :=
  { bus with slots := fillSlot bus.slots handle.index value }

/-! ### Dispatching -/

/-- What the next read of a register returns: the head of its script, else its content. -/
def nextRead (bus : Bus) (path : String) : UInt32 :=
  (bus.script path).headD (RegisterFile.read bus.registers path)

/-- Carries out a read at the given time. -/
def commitRead (bus : Bus) (time : Nat) (path : String) (slot : Option Nat) : Bus :=
  let value := bus.nextRead path
  { bus with
    scripts :=
      match bus.script path with
      | [] => bus.scripts
      | _ :: rest => bus.scripts.set path rest
    slots :=
      match slot with
      | none => bus.slots
      | some index => fillSlot bus.slots index value
    log := { dispatch := bus.dispatches, kind := .read, path, value, time } :: bus.log }

/-- Carries out a write at the given time: stores the value, then lets the hooks of the register
run in order. -/
def commitWrite (bus : Bus) (time : Nat) (path : String) (value : UInt32) : Bus :=
  let stored := bus.registers.set path value
  let (hooks, registers) := AttachedHook.fireAll value (bus.hooksOf path) stored
  { bus with
    registers
    hooks := if hooks.isEmpty then bus.hooks else bus.hooks.set path hooks
    log := { dispatch := bus.dispatches, kind := .write, path, value, time } :: bus.log }

/-- Carries out one queued access at the given time. -/
def commit (time : Nat) (bus : Bus) : Queued → Bus
  | .read path slot => bus.commitRead time path slot
  | .write path value => bus.commitWrite time path value

/-- Commits everything that is queued, in order, as one numbered dispatch. -/
def flush (bus : Bus) (time : Nat) : Bus :=
  bus.queue.foldl (commit time) { bus with queue := [], dispatches := bus.dispatches + 1 }

/-- Dispatches the queue at the given time. A dispatch that is due to fail drops the queue and
changes nothing else. -/
def dispatch (bus : Bus) (time : Nat) : Except Error Unit × Bus :=
  match bus.fault with
  | none => (.ok (), bus.flush time)
  | some { remaining := 0, message } =>
    (.error (.bus message), { bus with queue := [], fault := none })
  | some { remaining := n + 1, message } =>
    (.ok (), { bus with fault := some { remaining := n, message } }.flush time)

end Bus

end OpticalTiming
