import OpticalTiming.Config.Basic

/-!
# Which configurations can be used

A `Violation` is a rule that a configuration breaks. `DesignConfig.firstViolation?` looks for the
first one: times that are zero, polls that do not fit into a timeout, a clock that stands still,
devices without channels, and then, endpoint by endpoint, addresses and channels out of range.
-/

namespace OpticalTiming

/-- A rule that a configuration breaks. -/
inductive Violation where
  /-- The named time is zero. -/
  | zeroInterval (name : String)
  | pollExceedsTimeout
  | clockStopped
  | noChannels
  /-- The address of the named endpoint cannot be used, for the given reason. -/
  | endpointAddress (id : String) (reason : Error)
  /-- The named endpoint is on a channel that the multiplexer does not have. -/
  | endpointChannel (id : String) (channel : MuxChannel)
  deriving Repr, DecidableEq

namespace Violation

/-- The wording of a violation. -/
def message : Violation → String
  | zeroInterval name => s!"{name} must be non-zero"
  | pollExceedsTimeout => "Poll interval exceeds a timeout"
  | clockStopped => "Clock frequency must be non-zero"
  | noChannels => "Channel counts must be non-zero"
  | endpointAddress id reason => s!"Endpoint {id}: {reason.message}"
  | endpointChannel id channel => s!"Endpoint {id}: mux channel {channel.text} out of range"

/-- The error that refuses a configuration. -/
def error (v : Violation) : Error := .config v.message

end Violation

/-- The rule that an endpoint breaks, given the number of multiplexer channels: its address is
looked at before its channel. -/
def StoredCalibration.violation? (endpoint : StoredCalibration) (channels : UInt32) :
    Option Violation :=
  match endpoint.address.checkTarget with
  | .error reason => some (.endpointAddress endpoint.id reason)
  | .ok () =>
    match endpoint.muxChannel with
    | none => none
    | some channel =>
      if channels ≤ channel.index then some (.endpointChannel endpoint.id channel) else none

namespace DesignConfig

/-- The first rule that a configuration breaks. -/
def firstViolation? (config : DesignConfig) : Option Violation :=
  if config.echoTimeout = 0 then some (.zeroInterval "echo_timeout")
  else if config.pollInterval = 0 then some (.zeroInterval "poll_interval")
  else if config.lockTimeout = 0 then some (.zeroInterval "lock_timeout")
  else if config.echoTimeout < config.pollInterval ∨ config.lockTimeout < config.pollInterval then
    some .pollExceedsTimeout
  else if config.clockHz = 0 then some .clockStopped
  else if config.muxChannelCount = 0 ∨ config.commandChannelCount = 0 then some .noChannels
  else config.endpoints.findSome? (·.violation? config.muxChannelCount)

/-- Refuses a configuration that breaks a rule, naming the first one. -/
def check (config : DesignConfig) : Except Error Unit :=
  match config.firstViolation? with
  | none => .ok ()
  | some v => .error v.error

end DesignConfig

end OpticalTiming
