import Mathlib.Logic.Basic
import OpticalTiming.Design.Registry

/-!
# The rules for a usable configuration

`DesignConfig.rules` lists everything that is asked of a configuration, in the order in which it is
looked at: a few rules for the whole, then the rules for each endpoint. `firstViolation?_eq_broken?`
says that the check finds the first rule of this list that does not hold.

Hence a configuration passes its check just if it is `Usable` (`check_eq_ok_iff`), and otherwise the
check ends with the wording of that rule (`check_eq_error_iff`), which is also what every registry
answers (`build_of_check_error`).
-/

namespace OpticalTiming

/-! ### Rules -/

/-- Something that is asked of a configuration. -/
inductive Rule where
  /-- The named time is not zero. -/
  | nonZero (name : String) (ms : UInt64)
  /-- A poll fits into both timeouts. -/
  | pollFits
  | clockRuns
  | hasChannels
  /-- The address of the named endpoint is in range. -/
  | addressInRange (id : String) (address : EndpointAddress)
  /-- The named endpoint is on a channel that the multiplexer has. -/
  | channelInRange (id : String) (channel : MuxChannel)
  deriving DecidableEq

/-- An address names an endpoint just if its number is in this range. -/
theorem EndpointAddress.isTarget_iff {address : EndpointAddress} :
    address.IsTarget ↔ 1 ≤ address.value ∧ address.value ≤ 0xFFFF := by
  refine and_congr_left' ?_
  rw [ne_eq, ← UInt32.toNat_inj, UInt32.le_iff_toNat_le]
  exact Nat.pos_iff_ne_zero.symm

namespace Rule

/-- Whether a configuration keeps a rule. -/
def Holds (config : DesignConfig) : Rule → Prop
  | nonZero _ ms => ms ≠ 0
  | pollFits =>
    config.pollInterval ≤ config.echoTimeout ∧ config.pollInterval ≤ config.lockTimeout
  | clockRuns => config.clockHz ≠ 0
  | hasChannels => config.muxChannelCount ≠ 0 ∧ config.commandChannelCount ≠ 0
  | addressInRange _ address => 1 ≤ address.value ∧ address.value ≤ 0xFFFF
  | channelInRange _ channel => channel.index < config.muxChannelCount

instance (config : DesignConfig) : DecidablePred (Holds config) := fun rule => by
  cases rule <;> unfold Holds <;> infer_instance

/-- What is said of a configuration that breaks a rule. -/
def text : Rule → String
  | nonZero name _ => s!"{name} must be non-zero"
  | pollFits => "Poll interval exceeds a timeout"
  | clockRuns => "Clock frequency must be non-zero"
  | hasChannels => "Channel counts must be non-zero"
  | addressInRange id address =>
    s!"Endpoint {id}: Invalid endpoint address: {Text.hex address.value.toNat}"
  | channelInRange id channel => s!"Endpoint {id}: mux channel {channel.index} out of range"

/-- The violation of a rule. -/
def violation : Rule → Violation
  | nonZero name _ => .zeroInterval name
  | pollFits => .pollExceedsTimeout
  | clockRuns => .clockStopped
  | hasChannels => .noChannels
  | addressInRange id address => .endpointAddress id (.invalidAddress address.value)
  | channelInRange id channel => .endpointChannel id channel

theorem message_violation (rule : Rule) : rule.violation.message = rule.text := by
  cases rule with
  | addressInRange id address =>
    -- The wording of the address is a part of the wording of the rule.
    have htext : ": Invalid endpoint address: " = ": " ++ "Invalid endpoint address: " := rfl
    unfold violation Violation.message text Error.message
    simp only [toString, htext, String.append_assoc]
  | _ => rfl

end Rule

/-- What is asked of an endpoint: first of its address, then of its channel if it has one. -/
def StoredCalibration.rules (endpoint : StoredCalibration) : List Rule :=
  .addressInRange endpoint.id endpoint.address ::
    endpoint.muxChannel.toList.map (.channelInRange endpoint.id)

namespace DesignConfig

/-- What is asked of a configuration, in the order in which it is looked at. -/
def rules (config : DesignConfig) : List Rule :=
  .nonZero "echo_timeout" config.echoTimeout ::
  .nonZero "poll_interval" config.pollInterval ::
  .nonZero "lock_timeout" config.lockTimeout ::
  .pollFits :: .clockRuns :: .hasChannels ::
    config.endpoints.flatMap StoredCalibration.rules

/-- A configuration with which a design can work. -/
structure Usable (config : DesignConfig) : Prop where
  echoTimeout : config.echoTimeout ≠ 0
  pollInterval : config.pollInterval ≠ 0
  lockTimeout : config.lockTimeout ≠ 0
  pollInterval_le_echo : config.pollInterval ≤ config.echoTimeout
  pollInterval_le_lock : config.pollInterval ≤ config.lockTimeout
  clockHz : config.clockHz ≠ 0
  muxChannelCount : config.muxChannelCount ≠ 0
  commandChannelCount : config.commandChannelCount ≠ 0
  address : ∀ endpoint ∈ config.endpoints,
    1 ≤ endpoint.address.value ∧ endpoint.address.value ≤ 0xFFFF
  channel : ∀ endpoint ∈ config.endpoints, ∀ channel, endpoint.muxChannel = some channel →
    channel.index < config.muxChannelCount

/-- A rule that a configuration breaks while it keeps all rules listed before it. -/
def FirstBroken (config : DesignConfig) (rule : Rule) : Prop :=
  ∃ earlier later, config.rules = earlier ++ rule :: later ∧
    (∀ kept ∈ earlier, kept.Holds config) ∧ ¬ rule.Holds config

/-! ### The search for a broken rule -/

/-- The violation of the first of these rules that a configuration breaks. -/
def broken? (config : DesignConfig) (rules : List Rule) : Option Violation :=
  (rules.find? fun rule => ¬ rule.Holds config).map Rule.violation

variable {config : DesignConfig}

/-- One look at one rule. -/
theorem broken?_cons {rule : Rule} {wrong : Prop} [Decidable wrong]
    (h : wrong ↔ ¬ rule.Holds config) (rules : List Rule) :
    config.broken? (rule :: rules) =
      if wrong then some rule.violation else config.broken? rules := by
  unfold broken?
  rw [List.find?_cons]
  by_cases hwrong : wrong
  · rw [if_pos hwrong, decide_eq_true (h.mp hwrong)]
    rfl
  · rw [if_neg hwrong, decide_eq_false (mt h.mpr hwrong)]

theorem broken?_append (first second : List Rule) :
    config.broken? (first ++ second) = (config.broken? first <|> config.broken? second) := by
  unfold broken?
  rw [List.find?_append]
  cases first.find? fun rule => ¬ rule.Holds config <;> rfl

/-- The check of an endpoint finds the first of its rules that does not hold. -/
theorem broken?_rules (endpoint : StoredCalibration) :
    config.broken? endpoint.rules = endpoint.violation? config.muxChannelCount := by
  have haddress : ¬ endpoint.address.IsTarget ↔
      ¬ Rule.Holds config (.addressInRange endpoint.id endpoint.address) :=
    not_congr EndpointAddress.isTarget_iff
  unfold StoredCalibration.rules StoredCalibration.violation? EndpointAddress.checkTarget
  rw [broken?_cons haddress]
  by_cases htarget : endpoint.address.IsTarget
  · rw [if_neg (not_not_intro htarget), if_pos htarget]
    cases endpoint.muxChannel with
    | none => rfl
    | some channel =>
      have hchannel : config.muxChannelCount ≤ channel.index ↔
          ¬ Rule.Holds config (.channelInRange endpoint.id channel) := UInt32.not_lt.symm
      exact broken?_cons hchannel []
  · rw [if_pos htarget, if_neg htarget]
    rfl

/-- The endpoints are looked at one after the other. -/
theorem broken?_flatMap_rules (endpoints : List StoredCalibration) :
    config.broken? (endpoints.flatMap StoredCalibration.rules) =
      endpoints.findSome? (·.violation? config.muxChannelCount) := by
  induction endpoints with
  | nil => rfl
  | cons endpoint endpoints ih =>
    rw [List.flatMap_cons, broken?_append, broken?_rules, ih, List.findSome?_cons]
    cases endpoint.violation? config.muxChannelCount <;> rfl

/-- The check finds the first rule that does not hold. -/
theorem firstViolation?_eq_broken? (config : DesignConfig) :
    config.firstViolation? = config.broken? config.rules := by
  have hzero (name : String) (ms : UInt64) :
      ms = 0 ↔ ¬ Rule.Holds config (.nonZero name ms) := not_not.symm
  have hpoll : config.echoTimeout < config.pollInterval ∨
      config.lockTimeout < config.pollInterval ↔ ¬ Rule.Holds config .pollFits := by
    unfold Rule.Holds
    rw [not_and_or, UInt64.not_le, UInt64.not_le]
  have hclock : config.clockHz = 0 ↔ ¬ Rule.Holds config .clockRuns := not_not.symm
  have hchannels : config.muxChannelCount = 0 ∨ config.commandChannelCount = 0 ↔
      ¬ Rule.Holds config .hasChannels := by
    unfold Rule.Holds
    rw [not_and_or, not_not, not_not]
  unfold firstViolation? rules
  rw [broken?_cons (hzero _ _), broken?_cons (hzero _ _), broken?_cons (hzero _ _),
    broken?_cons hpoll, broken?_cons hclock, broken?_cons hchannels, broken?_flatMap_rules]
  rfl

/-! ### What the check answers -/

/-- A configuration passes its check just if it keeps all rules. -/
theorem check_eq_ok_iff_holds :
    config.check = .ok () ↔ ∀ rule ∈ config.rules, rule.Holds config := by
  unfold check
  rw [firstViolation?_eq_broken?, broken?]
  cases hfind : config.rules.find? fun rule => ¬ rule.Holds config with
  | none => simpa using hfind
  | some rule =>
    have hbroken : ¬ rule.Holds config := by simpa using List.find?_some hfind
    refine iff_of_false (by rintro ⟨⟩) fun hall => ?_
    exact hbroken (hall rule (List.mem_of_find?_eq_some hfind))

/-- The rules for the endpoints ask of each of them what a usable configuration needs. -/
theorem forall_endpoint_rules_iff :
    (∀ rule ∈ config.endpoints.flatMap StoredCalibration.rules, rule.Holds config) ↔
      ∀ endpoint ∈ config.endpoints,
        (1 ≤ endpoint.address.value ∧ endpoint.address.value ≤ 0xFFFF) ∧
        ∀ channel, endpoint.muxChannel = some channel → channel.index < config.muxChannelCount := by
  rw [List.forall_mem_flatMap]
  refine forall₂_congr fun endpoint _ => ?_
  unfold StoredCalibration.rules
  rw [List.forall_mem_cons, List.forall_mem_map]
  refine and_congr Iff.rfl (forall_congr' fun channel => ?_)
  rw [Option.mem_toList]
  exact Iff.rfl

/-- A configuration is usable just if it keeps all rules. -/
theorem usable_iff_holds : config.Usable ↔ ∀ rule ∈ config.rules, rule.Holds config := by
  unfold rules
  iterate 6 rw [List.forall_mem_cons]
  rw [forall_endpoint_rules_iff]
  constructor
  · intro h
    exact ⟨h.echoTimeout, h.pollInterval, h.lockTimeout,
      ⟨h.pollInterval_le_echo, h.pollInterval_le_lock⟩, h.clockHz,
      ⟨h.muxChannelCount, h.commandChannelCount⟩,
      fun endpoint hmem => ⟨h.address endpoint hmem, h.channel endpoint hmem⟩⟩
  · rintro ⟨hecho, hpoll, hlock, ⟨hfitsEcho, hfitsLock⟩, hclock, ⟨hmux, hcommand⟩, hendpoint⟩
    exact ⟨hecho, hpoll, hlock, hfitsEcho, hfitsLock, hclock, hmux, hcommand,
      fun endpoint hmem => (hendpoint endpoint hmem).1,
      fun endpoint hmem => (hendpoint endpoint hmem).2⟩

instance (config : DesignConfig) : Decidable config.Usable :=
  decidable_of_iff _ usable_iff_holds.symm

/-- A configuration passes its check just if it is usable. -/
theorem check_eq_ok_iff : config.check = .ok () ↔ config.Usable :=
  check_eq_ok_iff_holds.trans usable_iff_holds.symm

/-- The search through the rules finds the first broken one. -/
theorem find?_eq_some_iff_firstBroken {rule : Rule} :
    config.rules.find? (fun rule => ¬ rule.Holds config) = some rule ↔
      config.FirstBroken rule := by
  rw [List.find?_eq_some_iff_append]
  constructor
  · rintro ⟨hbroken, earlier, later, hrules, hkept⟩
    refine ⟨earlier, later, hrules, fun kept hmem => ?_, of_decide_eq_true hbroken⟩
    simpa using hkept kept hmem
  · rintro ⟨earlier, later, hrules, hkept, hbroken⟩
    refine ⟨decide_eq_true hbroken, earlier, later, hrules, fun kept hmem => ?_⟩
    simpa using hkept kept hmem

/-- The check ends with an error just if that is the wording of the first broken rule. -/
theorem check_eq_error_iff {e : Error} :
    config.check = .error e ↔ ∃ rule, config.FirstBroken rule ∧ e = .config rule.text := by
  simp only [← find?_eq_some_iff_firstBroken]
  unfold check
  rw [firstViolation?_eq_broken?, broken?]
  cases config.rules.find? fun rule => ¬ rule.Holds config with
  | none => exact iff_of_false (by rintro ⟨⟩) (by rintro ⟨rule, ⟨⟩, -⟩)
  | some rule =>
    have herror : rule.violation.error = .config rule.text :=
      congrArg Error.config rule.message_violation
    simp only [Option.map_some, herror, Except.error.injEq, Option.some.injEq, exists_eq_left']
    exact eq_comm

/-- Every registry refuses what the check refuses, before it looks for the family. -/
theorem build_of_check_error {e : Error} (h : config.check = .error e) (registry : Registry) :
    registry.build config = .error e := by
  unfold Registry.build
  rw [h]
  rfl

/-- A configuration passes its check just if it is usable. Otherwise the check fails with the
wording of the first broken rule, and every registry refuses the configuration in the same way. -/
theorem check_reports_first_broken_rule (config : DesignConfig) :
    (config.check = .ok () ↔ config.Usable) ∧
    (∀ e, config.check = .error e ↔
      ∃ rule, config.FirstBroken rule ∧ e = .config rule.text) ∧
    ∀ (registry : Registry) e, config.check = .error e → registry.build config = .error e :=
  ⟨check_eq_ok_iff, fun _ => check_eq_error_iff,
    fun registry _ h => build_of_check_error h registry⟩

/-- Of two unusable endpoints the first one in the list is named, and of what is wrong with it the
address, although its channel is out of range as well. -/
example :
    let endpoint id address channel : StoredCalibration :=
      { id, address := ⟨address⟩, delay := ⟨0, 0, 0⟩, muxChannel := some ⟨channel⟩ }
    { DesignConfig.standard with
      endpoints := [endpoint "a" 1 7, endpoint "b" 0x10000 8, endpoint "c" 2 9] }.check =
      .error (.config "Endpoint b: Invalid endpoint address: 0x10000") := by
  rfl

end DesignConfig

end OpticalTiming
