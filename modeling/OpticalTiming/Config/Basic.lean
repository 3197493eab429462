import OpticalTiming.Address

/-!
# Configuration of a timing design

A `DesignConfig` names the family of a design, the blocks of its registers, its timing and its
endpoints. All times are whole milliseconds below 2^64. `DesignConfig.standard` is the reference
system; a stored configuration replaces only the parts that it mentions.
-/

namespace OpticalTiming

/-- When a calibration switches the transmitter of its endpoint off again. -/
inductive ReleasePolicy where
  /-- Only after a call that measured the round trip through a multiplexer channel. -/
  | whenMeasured
  /-- After every call that controlled the transmitter. -/
  | always
  deriving Repr, DecidableEq

/-- The stored calibration of one endpoint. -/
structure StoredCalibration where
  /-- The name that people use for the endpoint. -/
  id : String
  address : EndpointAddress
  delay : DelayParameters
  /-- The multiplexer channel that the endpoint hangs off, if any. -/
  muxChannel : Option MuxChannel
  deriving Repr, DecidableEq

/-- The names of the register blocks of a design. -/
structure RegisterMap where
  timestamp : String
  echo : String
  sfp : String
  delay : String
  commands : String
  upstream : String
  mux : String
  deriving Repr, DecidableEq

/-- The register blocks of the reference system. -/
def RegisterMap.standard : RegisterMap where
  timestamp := "master.tstamp"
  echo := "master.echo"
  sfp := "master.acmd.sfp"
  delay := "master.acmd"
  commands := "master.scmd_gen"
  upstream := "master.upstream"
  mux := "io"

/-! ### Reference values -/

/-- Frequency of the timestamp counter in the reference system. -/
def standardClockHz : UInt64 := 62500000

/-- Time between two looks at a status register. -/
def standardPollInterval : UInt64 := 100

/-- Time in which an echo has to come back. -/
def standardEchoTimeout : UInt64 := 1000

/-- Time in which the upstream endpoint has to lock. -/
def standardLockTimeout : UInt64 := 500

/-- Time that a receiver needs to settle after a change of the multiplexer channel. -/
def standardMuxSettle : UInt64 := 200

/-- The configuration of one timing design. -/
structure DesignConfig where
  /-- The family, by which the registry finds out how to build the design. -/
  family : String
  registers : RegisterMap
  /-- Ticks a second of the timestamp counter. -/
  clockHz : UInt64
  /-- Time in which an echo has to come back. -/
  echoTimeout : UInt64
  /-- Time between two looks at a status register. -/
  pollInterval : UInt64
  /-- Time in which the upstream endpoint has to lock. -/
  lockTimeout : UInt64
  /-- Time to settle after selecting a multiplexer channel for a measurement. -/
  muxSettle : UInt64
  muxChannelCount : UInt32
  commandChannelCount : UInt32
  releasePolicy : ReleasePolicy
  endpoints : List StoredCalibration
  deriving Repr, DecidableEq

/-- The configuration of the reference system, without endpoints. -/
def DesignConfig.standard : DesignConfig where
  family := "master"
  registers := .standard
  clockHz := standardClockHz
  echoTimeout := standardEchoTimeout
  pollInterval := standardPollInterval
  lockTimeout := standardLockTimeout
  muxSettle := standardMuxSettle
  muxChannelCount := 8
  commandChannelCount := 5
  releasePolicy := .whenMeasured
  endpoints := []

end OpticalTiming
