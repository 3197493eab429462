import OpticalTiming.NameMap

/-!
# The contents of a register space

A `RegisterFile` has a 32-bit value for every register that was ever stored; any other register
reads as zero.
-/

namespace OpticalTiming

/-- Register contents by full path. -/
abbrev RegisterFile := NameMap UInt32

namespace RegisterFile

/-- The value of a register; one that was never stored reads as zero. -/
def read (registers : RegisterFile) (path : String) : UInt32 := (registers.get? path).getD 0

/-- Stores every pair in turn. -/
def storeAll (registers : RegisterFile) (pairs : List (String × UInt32)) : RegisterFile :=
  pairs.foldl (fun registers (path, value) => registers.set path value) registers

/-- Adds to every named register in turn, wrapping at 32 bits. -/
def addAll (registers : RegisterFile) (pairs : List (String × UInt32)) : RegisterFile :=
  pairs.foldl (fun registers (path, value) => registers.set path (read registers path + value))
    registers

end RegisterFile

end OpticalTiming
