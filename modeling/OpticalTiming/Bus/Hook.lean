import OpticalTiming.Bus.RegisterFile

/-!
# Reactions of a device to writes

A `Hook` says how the registers of a device change when a certain register is written. It may
depend on all writes that it has answered before, so any deterministic device can be described.
`Reaction` describes the common ones by tables, and `Reaction.hook` is its hook.
-/

namespace OpticalTiming

/-- A write as a hook sees it: the value, and the registers after it was stored. -/
structure Stimulus where
  value : UInt32
  registers : RegisterFile

/-- The registers that a device has after the current write, given the writes before it (the most
recent first). -/
abbrev Hook := List Stimulus → Stimulus → RegisterFile

/-- A hook in place, with the writes that it has answered so far, the most recent first. -/
structure AttachedHook where
  react : Hook
  past : List Stimulus := []

namespace AttachedHook

/-- Answers a write: the registers after the reaction, and the hook that remembers the write. -/
def fire (hook : AttachedHook) (value : UInt32) (registers : RegisterFile) :
    AttachedHook × RegisterFile :=
  let stimulus : Stimulus := { value, registers }
  ({ hook with past := stimulus :: hook.past }, hook.react hook.past stimulus)

/-- Lets every hook of a list answer a write in turn, each on the registers that the one before it
left. -/
def fireAll (value : UInt32) : List AttachedHook → RegisterFile → List AttachedHook × RegisterFile
  | [], registers => ([], registers)
  | hook :: rest, registers =>
    let (hook, registers) := hook.fire value registers
    let (rest, registers) := fireAll value rest registers
    (hook :: rest, registers)

end AttachedHook

/-- A device reaction given by tables. -/
structure Reaction where
  /-- The written values that trigger the reaction; every value if absent. -/
  triggers : Option (List UInt32)
  /-- What is stored when the reaction is triggered. -/
  stores : List (String × UInt32)
  /-- What is then added, wrapping at 32 bits. -/
  adds : List (String × UInt32)
  /-- Where the written value is then copied to. -/
  copyTo : Option String
  /-- What is stored instead when the written value is no trigger. -/
  otherwise : List (String × UInt32)
  /-- How many writes are answered before the device stops reacting; all of them if absent. -/
  uses : Option Nat

namespace Reaction

/-- Whether a written value triggers the reaction. -/
def isTriggeredBy (r : Reaction) (value : UInt32) : Bool :=
  match r.triggers with
  | none => true
  | some values => values.contains value

/-- The registers after the reaction to one write. -/
def apply (r : Reaction) (stimulus : Stimulus) : RegisterFile :=
  if r.isTriggeredBy stimulus.value then
    let registers := RegisterFile.addAll (RegisterFile.storeAll stimulus.registers r.stores) r.adds
    match r.copyTo with
    | none => registers
    | some path => registers.set path stimulus.value
  else
    RegisterFile.storeAll stimulus.registers r.otherwise

/-- Whether a write is still answered after `count` earlier ones. -/
def isActiveAfter (r : Reaction) (count : Nat) : Bool :=
  match r.uses with
  | none => true
  | some uses => count < uses

/-- The hook that reacts as the tables say. -/
def hook (r : Reaction) : Hook := fun past stimulus =>
  if r.isActiveAfter past.length then r.apply stimulus else stimulus.registers

end Reaction

end OpticalTiming
