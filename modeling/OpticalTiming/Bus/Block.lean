/-!
# Register blocks

A block is a named part of the register space: its registers have the name of the block, a point
and the name of the leaf. The block with the empty name is the space itself.
-/

namespace OpticalTiming

/-- A named part of the register space. -/
structure RegisterBlock where
  base : String
  deriving Repr, DecidableEq

/-- The full path of a register of a block. -/
def RegisterBlock.path (block : RegisterBlock) (leaf : String) : String :=
  if block.base.isEmpty then leaf else block.base ++ "." ++ leaf

end OpticalTiming
