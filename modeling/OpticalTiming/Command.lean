import OpticalTiming.Error

/-!
# Fixed-length commands

Short timing-critical commands, each with the code that is written to a command channel.
`ofCode_code` says that a command is found again by its code.
-/

namespace OpticalTiming

/-- A command that is broadcast on a command channel. -/
inductive FixedLengthCommand where
  | timeSync
  | echo
  | spillStart
  | spillStop
  | runStart
  | runStop
  | wibCalib
  | trigger
  deriving Repr, DecidableEq

namespace FixedLengthCommand

/-- All commands, in the order of their codes. -/
def all : List FixedLengthCommand :=
  [timeSync, echo, spillStart, spillStop, runStart, runStop, wibCalib, trigger]

/-- The word that is written to the channel. -/
def code : FixedLengthCommand → UInt32
  | timeSync => 0
  | echo => 1
  | spillStart => 2
  | spillStop => 3
  | runStart => 4
  | runStop => 5
  | wibCalib => 6
  | trigger => 7

/-- The name of a command. -/
def name : FixedLengthCommand → String
  | timeSync => "TimeSync"
  | echo => "Echo"
  | spillStart => "SpillStart"
  | spillStop => "SpillStop"
  | runStart => "RunStart"
  | runStop => "RunStop"
  | wibCalib => "WibCalib"
  | trigger => "Trigger"

/-- The command with the given code; any other number is refused. -/
def ofCode (code : UInt32) : Except Error FixedLengthCommand :=
  match all.find? (·.code = code) with
  | some command => .ok command
  | none => .error (.protocol s!"unknown fixed-length command code {Text.hex code.toNat}")

/-- The command with the given name. -/
def ofName? (name : String) : Option FixedLengthCommand := all.find? (·.name = name)

/-- A command is found again by its code. -/
theorem ofCode_code (c : FixedLengthCommand) : ofCode c.code = .ok c := by
  cases c <;> rfl

end FixedLengthCommand

end OpticalTiming
