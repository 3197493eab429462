import OpticalTiming.Bus.Block
import OpticalTiming.Procedure.Basic

/-!
# Procedures on a register block

Single accesses to the leaves of a block, and two that take a whole list of leaves in one dispatch:
`RegisterBlock.snapshot` reads them and keeps the values by leaf, `RegisterBlock.reset` writes the
same value to all of them.
-/

namespace OpticalTiming

/-- Register values that were read in one dispatch, by leaf. -/
structure Snapshot where
  values : NameMap UInt32

/-- The value of a leaf; one that was not read is refused. -/
def Snapshot.get (snapshot : Snapshot) (leaf : String) : Except Error UInt32 :=
  match snapshot.values.get? leaf with
  | some value => .ok value
  | none => .error (.protocol s!"register {leaf} not in snapshot")

namespace RegisterBlock

/-- Queues a read of a leaf. -/
def read (block : RegisterBlock) (leaf : String) : Procedure Handle :=
  Procedure.read (block.path leaf)

/-- Queues a write to a leaf. -/
def write (block : RegisterBlock) (leaf : String) (value : UInt32) : Procedure Unit :=
  Procedure.write (block.path leaf) value

/-- Reads a leaf in a dispatch of its own. -/
def fetch (block : RegisterBlock) (leaf : String) : Procedure UInt32 := do
  let handle ← block.read leaf
  Procedure.dispatch
  Procedure.value handle

/-- Queues a read of every leaf, in order. -/
def readAll (block : RegisterBlock) : List String → Procedure (List (String × Handle))
  | [] => pure []
  | leaf :: rest => do
    let handle ← block.read leaf
    let handles ← block.readAll rest
    pure ((leaf, handle) :: handles)

/-- Adds the values of handles to a map, in order; the last value of a leaf stays. -/
def collect (values : NameMap UInt32) : List (String × Handle) → Procedure (NameMap UInt32)
  | [] => pure values
  | (leaf, handle) :: rest => do
    let value ← Procedure.value handle
    collect (values.set leaf value) rest

/-- Reads all leaves in one dispatch. -/
def snapshot (block : RegisterBlock) (leaves : List String) : Procedure Snapshot := do
  let handles ← block.readAll leaves
  Procedure.dispatch
  let values ← collect .empty handles
  pure { values }

/-- Writes `value` to all leaves in one dispatch. -/
def reset (block : RegisterBlock) (leaves : List String) (value : UInt32) : Procedure Unit := do
  leaves.forM fun leaf => block.write leaf value
  Procedure.dispatch

end RegisterBlock

end OpticalTiming
