import OpticalTiming.Config.Violation
import OpticalTiming.Design.Basic
import OpticalTiming.NameMap
import OpticalTiming.Text.Quoted

/-!
# The registry of design families

A `Registry` maps the names of families to the way in which their designs are built. A name that is
registered again takes its latest builder. `Registry.build` refuses a configuration that cannot be
used before it looks at the family.
-/

namespace OpticalTiming

/-- How the designs of a family are built from a configuration. -/
abbrev Builder := DesignConfig → Except Error Design

/-! ### Reference families -/

/-- A master without a return path. -/
def Builder.plain : Builder := fun config =>
  .ok { config, master := .ofConfig config false, mux := none }

/-- A master with a return path. -/
def Builder.returnPath : Builder := fun config =>
  .ok { config, master := .ofConfig config true, mux := none }

/-- A master with a return path and a fan-out multiplexer. -/
def Builder.fanOut : Builder := fun config =>
  .ok
    { config
      master := .ofConfig config true
      mux := some { block := ⟨config.registers.mux⟩, count := config.muxChannelCount } }

/-- Design families by name. -/
structure Registry where
  builders : NameMap Builder

namespace Registry

/-- The registry without families. -/
def empty : Registry := ⟨.empty⟩

/-- Adds a family, or replaces its builder. -/
def register (registry : Registry) (family : String) (builder : Builder) : Registry :=
  ⟨registry.builders.set family builder⟩

/-- The registry of the reference families. -/
def standard : Registry :=
  empty
    |>.register "master" .plain
    |>.register "ouroboros" .returnPath
    |>.register "master-mux" .fanOut

/-- The names of the families in ascending order. -/
def families (registry : Registry) : List String :=
  registry.builders.names.mergeSort fun a b => a ≤ b

/-- Builds the design that a configuration describes. -/
def build (registry : Registry) (config : DesignConfig) : Except Error Design := do
  config.check
  match registry.builders.get? config.family with
  | some builder => builder config
  | none => .error (.unknownDesign config.family)

/-- One line with the names of the families. -/
def summary (registry : Registry) : String :=
  "DesignRegistry \x7b families: " ++ Text.quoteList registry.families ++ " \x7d"

end Registry

end OpticalTiming
