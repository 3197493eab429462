import OpticalTiming.Text.Hex

/-!
# Errors

`Error` tells why an operation on a timing network ended early; `Error.message` gives the wording.
Two classes matter to callers: a link failure (`isLinkFailure`) concerns one optical link, so that a
scan may go on with the next one, and after a fatal error (`isFatal`) the state of the hardware is
unknown.
-/

namespace OpticalTiming

/-- The cause that ended an operation. -/
inductive Error where
  /-- The transport refused a dispatch. -/
  | bus (message : String)
  /-- An echo was not seen within its timeout in whole milliseconds. -/
  | echoTimeout (ms : UInt64)
  /-- The named link did not lock. -/
  | lockFailure (link : String)
  /-- The number is no address that the call can use. -/
  | invalidAddress (address : UInt32)
  /-- The device has `count` channels, numbered from zero. -/
  | invalidChannel (channel count : UInt32)
  /-- A read was used that no dispatch has carried out. -/
  | notDispatched (path : String)
  /-- The caller cancelled the operation. -/
  | cancelled
  /-- The design lacks the named capability. -/
  | unsupported (capability : String)
  /-- No design family has this name. -/
  | unknownDesign (family : String)
  /-- The configuration cannot be used. -/
  | config (message : String)
  /-- Numbers that do not fit the protocol of the device. -/
  | protocol (message : String)
  deriving Repr, DecidableEq

namespace Error

/-- The wording of an error. -/
def message : Error → String
  | bus text => s!"Bus error: {text}"
  | echoTimeout ms => s!"Echo not received within {ms} ms"
  | lockFailure link => s!"Lock failure: {link} did not lock"
  | invalidAddress address => s!"Invalid endpoint address: {Text.hex address.toNat}"
  | invalidChannel channel count => s!"Invalid channel {channel} (device has {count})"
  | notDispatched path => s!"Register {path} read before dispatch"
  | cancelled => "Operation cancelled"
  | unsupported capability => s!"Capability not supported by this design: {capability}"
  | unknownDesign family => s!"Unknown design family: {family}"
  | config text => s!"Configuration error: {text}"
  | protocol text => s!"Protocol error: {text}"

/-- Echo timeouts and lock failures concern a single optical link. -/
def isLinkFailure : Error → Bool
  | echoTimeout _ | lockFailure _ => true
  | _ => false

/-- After a bus error or a cancellation the state of the hardware is unknown. -/
def isFatal : Error → Bool
  | bus _ | cancelled => true
  | _ => false

/-- No error is both a link failure and fatal. -/
theorem isFatal_eq_false_of_isLinkFailure {e : Error} (h : e.isLinkFailure = true) :
    e.isFatal = false := by
  cases e <;> simp_all [isLinkFailure, isFatal]

end Error

end OpticalTiming
