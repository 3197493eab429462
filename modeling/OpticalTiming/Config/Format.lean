import OpticalTiming.Command
import OpticalTiming.Config.Basic
import OpticalTiming.Json.Decode
import OpticalTiming.Time.Duration
import OpticalTiming.Timestamp

/-!
# The stored form of configurations and values

Each type has a writer `toJson` and a reader `ofJson?`. Writing gives every field by name. Reading
takes the written form and every other form of a record; in a `DesignConfig` and its `RegisterMap`
a missing field takes the value of the reference system, and in an `StoredCalibration` a missing
channel is no channel.
-/

namespace OpticalTiming

/-! ### Words -/

/-- An address is written as its number. -/
def EndpointAddress.toJson (a : EndpointAddress) : Json := .word32 a.value

/-- Reads an address, whether or not it can be used. -/
def EndpointAddress.ofJson? (json : Json) : Option EndpointAddress := json.word32?.map .mk

/-- A channel is written as its index. -/
def MuxChannel.toJson (c : MuxChannel) : Json := .word32 c.index

/-- Reads a channel. -/
def MuxChannel.ofJson? (json : Json) : Option MuxChannel := json.word32?.map .mk

/-- A counter value is written as its number. -/
def TimestampWord.toJson (w : TimestampWord) : Json := .word64 w.value

/-- Reads a counter value. -/
def TimestampWord.ofJson? (json : Json) : Option TimestampWord := json.word64?.map .mk

/-- A span of time is written as its number of milliseconds. -/
def Duration.toJson (d : Duration) : Json := .word64 d.storedMillis

/-- Reads a span of time. -/
def Duration.ofJson? (json : Json) : Option Duration := json.word64?.map .ofMillis

/-! ### Alternatives -/

/-- A command is written as its name. -/
def FixedLengthCommand.toJson (c : FixedLengthCommand) : Json := .text c.name

/-- Reads the name of a command. -/
def FixedLengthCommand.ofJson? (json : Json) : Option FixedLengthCommand :=
  json.variant?.bind FixedLengthCommand.ofName?

namespace ReleasePolicy

/-- The name of a policy. -/
def name : ReleasePolicy → String
  | whenMeasured => "when-measured"
  | always => "always"

/-- The policy with the given name. -/
def ofName? (name : String) : Option ReleasePolicy :=
  [whenMeasured, always].find? (·.name = name)

/-- A policy is written as its name. -/
def toJson (r : ReleasePolicy) : Json := .text r.name

/-- Reads the name of a policy. -/
def ofJson? (json : Json) : Option ReleasePolicy := json.variant?.bind ofName?

end ReleasePolicy

/-! ### Records -/

namespace RoundTrip

/-- The fields of a measurement. -/
def fieldNames : List String := ["round_trip_ticks"]

/-- A measurement is written as a record. -/
def toJson (r : RoundTrip) : Json := .record [("round_trip_ticks", .word32 r.ticks)]

/-- Reads a measurement. -/
def ofJson? (json : Json) : Option RoundTrip := do
  let fields ← json.record? fieldNames
  let ticks ← Json.required? fields "round_trip_ticks" Json.word32?
  return { ticks }

end RoundTrip

namespace DelayParameters

/-- The fields of delay settings. -/
def fieldNames : List String := ["coarse", "fine", "phase"]

/-- Delay settings are written as a record. -/
def toJson (d : DelayParameters) : Json :=
  .record [("coarse", .word32 d.coarse), ("fine", .word32 d.fine), ("phase", .word32 d.phase)]

/-- Reads delay settings. -/
def ofJson? (json : Json) : Option DelayParameters := do
  let fields ← json.record? fieldNames
  let coarse ← Json.required? fields "coarse" Json.word32?
  let fine ← Json.required? fields "fine" Json.word32?
  let phase ← Json.required? fields "phase" Json.word32?
  return { coarse, fine, phase }

end DelayParameters

namespace StoredCalibration

/-- The fields of a stored calibration. -/
def fieldNames : List String := ["id", "address", "delay", "mux_channel"]

/-- A stored calibration is written as a record, with null for no channel. -/
def toJson (e : StoredCalibration) : Json :=
  .record
    [("id", .text e.id), ("address", e.address.toJson), ("delay", e.delay.toJson),
      ("mux_channel", e.muxChannel.elim .null MuxChannel.toJson)]

/-- Reads a stored calibration. -/
def ofJson? (json : Json) : Option StoredCalibration := do
  let fields ← json.record? fieldNames
  let id ← Json.required? fields "id" Json.text?
  let address ← Json.required? fields "address" EndpointAddress.ofJson?
  let delay ← Json.required? fields "delay" DelayParameters.ofJson?
  let muxChannel ← Json.optional? fields "mux_channel" none (Json.nullable? MuxChannel.ofJson?)
  return { id, address, delay, muxChannel }

end StoredCalibration

namespace RegisterMap

/-- The fields of a register map. -/
def fieldNames : List String :=
  ["timestamp", "echo", "sfp", "delay", "commands", "upstream", "mux"]

/-- A register map is written as a record. -/
def toJson (r : RegisterMap) : Json :=
  .record
    [("timestamp", .text r.timestamp), ("echo", .text r.echo), ("sfp", .text r.sfp),
      ("delay", .text r.delay), ("commands", .text r.commands), ("upstream", .text r.upstream),
      ("mux", .text r.mux)]

/-- Reads a register map; a block that is not named has its name in the reference system. -/
def ofJson? (json : Json) : Option RegisterMap := do
  let fields ← json.record? fieldNames
  let timestamp ← Json.optional? fields "timestamp" standard.timestamp Json.text?
  let echo ← Json.optional? fields "echo" standard.echo Json.text?
  let sfp ← Json.optional? fields "sfp" standard.sfp Json.text?
  let delay ← Json.optional? fields "delay" standard.delay Json.text?
  let commands ← Json.optional? fields "commands" standard.commands Json.text?
  let upstream ← Json.optional? fields "upstream" standard.upstream Json.text?
  let mux ← Json.optional? fields "mux" standard.mux Json.text?
  return { timestamp, echo, sfp, delay, commands, upstream, mux }

end RegisterMap

namespace DesignConfig

/-- The fields of a configuration. -/
def fieldNames : List String :=
  ["family", "registers", "clock_frequency_hz", "echo_timeout", "poll_interval", "lock_timeout",
    "mux_settle", "mux_channel_count", "command_channel_count", "sfp_restore", "endpoints"]

/-- A configuration is written as a record. -/
def toJson (c : DesignConfig) : Json :=
  .record
    [("family", .text c.family), ("registers", c.registers.toJson),
      ("clock_frequency_hz", .word64 c.clockHz), ("echo_timeout", .word64 c.echoTimeout),
      ("poll_interval", .word64 c.pollInterval), ("lock_timeout", .word64 c.lockTimeout),
      ("mux_settle", .word64 c.muxSettle), ("mux_channel_count", .word32 c.muxChannelCount),
      ("command_channel_count", .word32 c.commandChannelCount),
      ("sfp_restore", c.releasePolicy.toJson),
      ("endpoints", .array (c.endpoints.map StoredCalibration.toJson))]

/-- Reads a list of stored calibrations. -/
def endpointsOfJson? (json : Json) : Option (List StoredCalibration) := do
  let items ← json.items?
  items.mapM StoredCalibration.ofJson?

/-- Reads a configuration; what it does not mention is as in the reference system. -/
def ofJson? (json : Json) : Option DesignConfig := do
  let fields ← json.record? fieldNames
  let family ← Json.optional? fields "family" standard.family Json.text?
  let registers ← Json.optional? fields "registers" standard.registers RegisterMap.ofJson?
  let clockHz ← Json.optional? fields "clock_frequency_hz" standard.clockHz Json.word64?
  let echoTimeout ← Json.optional? fields "echo_timeout" standard.echoTimeout Json.word64?
  let pollInterval ← Json.optional? fields "poll_interval" standard.pollInterval Json.word64?
  let lockTimeout ← Json.optional? fields "lock_timeout" standard.lockTimeout Json.word64?
  let muxSettle ← Json.optional? fields "mux_settle" standard.muxSettle Json.word64?
  let muxChannelCount ←
    Json.optional? fields "mux_channel_count" standard.muxChannelCount Json.word32?
  let commandChannelCount ←
    Json.optional? fields "command_channel_count" standard.commandChannelCount Json.word32?
  let releasePolicy ←
    Json.optional? fields "sfp_restore" standard.releasePolicy ReleasePolicy.ofJson?
  let endpoints ← Json.optional? fields "endpoints" standard.endpoints endpointsOfJson?
  return {
    family, registers, clockHz, echoTimeout, pollInterval, lockTimeout, muxSettle,
    muxChannelCount, commandChannelCount, releasePolicy, endpoints }

end DesignConfig

end OpticalTiming
