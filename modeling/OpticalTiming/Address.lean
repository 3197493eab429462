import OpticalTiming.Error

/-!
# Addresses and channels

An `EndpointAddress` names a device on the timing link. The address field of the hardware has 16
bits, and address 0 stands for "no endpoint": `checkField` asks that the address fits the field,
`checkTarget` that it names an endpoint as well. A `MuxChannel` is one optical path of a fan-out
multiplexer.
-/

namespace OpticalTiming

/-- The address of a device on the timing link. -/
structure EndpointAddress where
  value : UInt32
  deriving Repr, DecidableEq

namespace EndpointAddress

/-- The reserved address "no endpoint", with which every transmitter is deselected. -/
def reserved : EndpointAddress := ⟨0⟩

/-- The largest address that the address field can hold. -/
def maxValue : UInt32 := 0xFFFF

/-- Whether this is the reserved address. -/
def isReserved (a : EndpointAddress) : Bool := a.value = 0

/-- An address that names an endpoint: it is not reserved and fits the field. -/
def IsTarget (a : EndpointAddress) : Prop := a.value ≠ 0 ∧ a.value ≤ maxValue

instance (a : EndpointAddress) : Decidable a.IsTarget := by
  unfold IsTarget; infer_instance

/-- Refuses an address that does not fit the address field. -/
def checkField (a : EndpointAddress) : Except Error Unit :=
  if a.value ≤ maxValue then .ok () else .error (.invalidAddress a.value)

/-- Refuses an address that names no endpoint. -/
def checkTarget (a : EndpointAddress) : Except Error Unit :=
  if a.IsTarget then .ok () else .error (.invalidAddress a.value)

/-- The address `value`, if it fits the address field. -/
def ofValue (value : UInt32) : Except Error EndpointAddress := do
  let a : EndpointAddress := ⟨value⟩
  a.checkField
  return a

/-- The text of an address: its number in hexadecimal. -/
def text (a : EndpointAddress) : String := Text.hex a.value.toNat

end EndpointAddress

/-- The index of one selectable optical path of a fan-out multiplexer. -/
structure MuxChannel where
  index : UInt32
  deriving Repr, DecidableEq

/-- The text of a channel: its index in decimal. -/
def MuxChannel.text (c : MuxChannel) : String := toString c.index

/-- Delay-line settings of one endpoint. -/
structure DelayParameters where
  /-- Coarse delay in clock cycles. -/
  coarse : UInt32
  /-- Taps of the fine delay. -/
  fine : UInt32
  /-- Steps of the phase delay. -/
  phase : UInt32
  deriving Repr, DecidableEq

end OpticalTiming
