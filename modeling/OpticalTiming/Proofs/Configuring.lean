import OpticalTiming.Proofs.Sending
import OpticalTiming.Proofs.Validating

/-!
# Configuring a design

`Design.configure` loads the counter and then programs the configured endpoints one after the other,
each by the batches of writes that `Design.delivery` lists, one dispatch for each batch.
`DesignConfig.check` has looked at the addresses and at the channels before the design was built,
but not at whether the family has a multiplexer at all. So an endpoint that hangs off a channel is
served by the families with a multiplexer only, and configuring any other design ends where the
first such endpoint would have been programmed: `configured_of_build`.
-/

namespace OpticalTiming

open Procedure

/-- Whether the family of a configuration has what an endpoint hangs off. -/
def DesignConfig.Serves (config : DesignConfig) (endpoint : StoredCalibration) : Prop :=
  config.family = "master-mux" ∨ endpoint.muxChannel = none

namespace Design

variable {design : Design} {settings : CalibrationSettings} {bench : Bench}
  {config : DesignConfig} {endpoint : StoredCalibration} {word : TimestampWord}

/-! ### Endpoints, one by one -/

/-- The batches of writes that program a stored calibration: its delays, and then the release of its
transmitter if every call that controls transmitters ends with one. -/
def delivery (design : Design) (settings : CalibrationSettings) (endpoint : StoredCalibration) :
    List (List (String × UInt32)) :=
  design.master.delayLine.pairs endpoint.address endpoint.delay ::
    if settings.releasePolicy = .always then
      [[(design.master.transmitters.controlPath, endpoint.address.value)]]
    else
      []

/-- Whether a design can program a stored calibration. -/
def Reaches (design : Design) (endpoint : StoredCalibration) : Prop :=
  endpoint.address.IsTarget ∧ design.HasChannel endpoint.muxChannel

/-- A stored calibration that a design can program is programmed by its batches. -/
theorem applyStored_eq (settings : CalibrationSettings) (h : design.Reaches endpoint) :
    (design.calibrationWith settings).applyStored endpoint false = (do
      sendAll (design.delivery settings endpoint)
      pure none) := by
  have hreleases : releases settings false true endpoint.muxChannel =
      decide (settings.releasePolicy = .always) := by
    rw [releases_eq, Bool.false_and, Bool.or_false, Bool.true_and]
  have hbatches : design.programming endpoint.address endpoint.delay
      (decide (settings.releasePolicy = .always)) = design.delivery settings endpoint := by
    simp only [programming, delivery, decide_eq_true_eq]
  rw [Calibration.applyStored, apply_eq settings h.1 h.2, applySteps_eq h.1, hreleases, hbatches]

/-- Without a multiplexer, an endpoint on a channel is refused before anything is written. -/
theorem applyStored_of_mux_none (settings : CalibrationSettings)
    (htarget : endpoint.address.IsTarget) (hmux : design.mux = none)
    (hchannel : endpoint.muxChannel.isSome) (measureRtt : Bool) :
    (design.calibrationWith settings).applyStored endpoint measureRtt = fail noMux := by
  obtain ⟨channel, hchannel⟩ := Option.isSome_iff_exists.mp hchannel
  have hcheck : (design.calibrationWith settings).checkChannel (some channel) = .error noMux := by
    simp only [Calibration.checkChannel, Calibration.muxFor, calibrationWith, hmux]
    rfl
  rw [Calibration.applyStored, Calibration.apply,
    EndpointAddress.checkTarget_eq_ok_iff.mpr htarget, hchannel, hcheck]
  rfl

/-! ### Lists of endpoints -/

theorem applyAll_append (calibration : Calibration) (first second : List StoredCalibration) :
    applyAll calibration (first ++ second) = (do
      applyAll calibration first
      applyAll calibration second) := by
  induction first with
  | nil => rfl
  | cons endpoint rest ih => rw [List.cons_append, applyAll, ih, applyAll, bind_assoc]

/-- Endpoints that a design can program are programmed in order. -/
theorem applyAll_eq (settings : CalibrationSettings) {endpoints : List StoredCalibration}
    (h : ∀ endpoint ∈ endpoints, design.Reaches endpoint) :
    applyAll (design.calibrationWith settings) endpoints =
      sendAll (endpoints.flatMap (design.delivery settings)) := by
  induction endpoints with
  | nil => rfl
  | cons endpoint rest ih =>
    have hrest := ih fun other hmem => h other (List.mem_cons_of_mem _ hmem)
    rw [applyAll, applyStored_eq settings (h endpoint List.mem_cons_self), hrest,
      List.flatMap_cons, sendAll_append, bind_assoc]
    rfl

/-- An endpoint that is refused ends the application of the list; those before it are
programmed. -/
theorem applyAll_eq_of_refused (settings : CalibrationSettings)
    {before rest : List StoredCalibration} {e : Error}
    (h : ∀ endpoint ∈ before, design.Reaches endpoint)
    (hrefused : (design.calibrationWith settings).applyStored endpoint false = fail e) :
    applyAll (design.calibrationWith settings) (before ++ endpoint :: rest) = (do
      sendAll (before.flatMap (design.delivery settings))
      fail e) := by
  rw [applyAll_append, applyAll_eq settings h, applyAll, hrefused]
  rfl

/-! ### Built designs -/

/-- The standard registry builds the designs of three families, and only from configurations that
pass the check. -/
theorem exists_of_build_ok (h : Registry.standard.build config = .ok design) :
    config.check = .ok () ∧ design.config = config ∧ (∃ withUpstream,
      design.master = .ofConfig config withUpstream) ∧
      design.mux = if config.family = "master-mux" then
        some { block := ⟨config.registers.mux⟩, count := config.muxChannelCount } else none := by
  unfold Registry.build at h
  cases hcheck : config.check with
  | error e =>
    rw [hcheck] at h
    cases h
  | ok u =>
    have hgoOn : ∀ next : Unit → Except Error Design, (Except.ok u >>= next) = next u :=
      fun _ => rfl
    rw [hcheck, hgoOn] at h
    simp only [Registry.standard, Registry.register, NameMap.get?_set] at h
    split at h
    case h_1 builder hbuilder =>
      split at hbuilder
      case isTrue hfamily =>
        cases hbuilder
        cases h
        exact ⟨rfl, rfl, ⟨true, rfl⟩, (if_pos hfamily).symm⟩
      case isFalse hfamily =>
        rw [if_neg hfamily]
        split at hbuilder
        · cases hbuilder
          cases h
          exact ⟨rfl, rfl, ⟨true, rfl⟩, rfl⟩
        · split at hbuilder
          · cases hbuilder
            cases h
            exact ⟨rfl, rfl, ⟨false, rfl⟩, rfl⟩
          · cases hbuilder
    case h_2 => cases h

/-- A configuration that passes the check has valid addresses and no channel out of range. -/
theorem endpoint_of_check_ok (h : config.check = .ok ()) (hmem : endpoint ∈ config.endpoints) :
    endpoint.address.IsTarget ∧
      ∀ channel, endpoint.muxChannel = some channel → channel.index < config.muxChannelCount := by
  have husable := DesignConfig.check_eq_ok_iff.mp h
  exact ⟨EndpointAddress.isTarget_iff.mpr (husable.address endpoint hmem),
    husable.channel endpoint hmem⟩

/-! ### The whole configuration -/

/-- A built design can program every configured endpoint that its family serves. -/
theorem reaches_of_serves (h : Registry.standard.build config = .ok design)
    (hmem : endpoint ∈ config.endpoints) (hserves : config.Serves endpoint) :
    design.Reaches endpoint := by
  obtain ⟨hcheck, -, -, hmux⟩ := exists_of_build_ok h
  obtain ⟨htarget, hrange⟩ := endpoint_of_check_ok hcheck hmem
  refine ⟨htarget, ?_⟩
  cases hchannel : endpoint.muxChannel with
  | none => trivial
  | some channel =>
    rcases hserves with hfamily | hnone
    · rw [if_pos hfamily] at hmux
      exact ⟨_, hmux, hrange channel hchannel⟩
    · rw [hchannel] at hnone
      cases hnone

/-- A built design refuses every configured endpoint that its family does not serve. -/
theorem applyStored_of_not_serves (h : Registry.standard.build config = .ok design)
    (hmem : endpoint ∈ config.endpoints) (hserves : ¬ config.Serves endpoint) :
    design.calibration.applyStored endpoint false = fail noMux := by
  obtain ⟨hfamily, hchannel⟩ := not_or.mp hserves
  obtain ⟨hcheck, -, -, hmux⟩ := exists_of_build_ok h
  rw [if_neg hfamily] at hmux
  exact applyStored_of_mux_none _ (endpoint_of_check_ok hcheck hmem).1 hmux
    (Option.isSome_iff_ne_none.mpr hchannel) false

/-- What configuring a design commits if it programs the given endpoints. -/
def configuration (design : Design) (bench : Bench) (word : TimestampWord)
    (endpoints : List StoredCalibration) : List Access :=
  bench.bus.flushed bench.clock ++
    Access.sent bench.clock (bench.bus.dispatches + 1)
      (design.master.counter.load word ::
        endpoints.flatMap (design.delivery (.ofConfig design.config)))

/-- Configuring loads the counter and goes on with the batches of the endpoints. -/
theorem run_configure {endpoints : List StoredCalibration} {outcome : Except Error Unit}
    (hfault : bench.bus.fault = none)
    (hclock : TimestampWord.ofUtc bench.wallClock design.master.clockHz = .ok word)
    (happly : applyAll design.calibration design.config.endpoints = (do
      sendAll (endpoints.flatMap (design.delivery (.ofConfig design.config)))
      Procedure.ofExcept outcome)) :
    ∃ after, design.configure.run bench = (outcome.map fun _ => word, after) ∧
      after.bus.queue = [] ∧
      design.configure.commits bench = design.configuration bench word endpoints := by
  obtain ⟨loaded, hload, hloaded, hcommits⟩ :=
    run_send_of_healthy (design.master.counter.load word) hfault
  have hfault' : loaded.bus.fault = none := by rw [hloaded.fault, hfault]; rfl
  obtain ⟨after, hsend, -⟩ :=
    run_sendAll (endpoints.flatMap (design.delivery (.ofConfig design.config))) hfault'
  obtain ⟨-, hready, -, hcommits'⟩ :=
    delivers_sendAll (endpoints.flatMap (design.delivery (.ofConfig design.config)))
      ⟨hloaded.queue, hfault'⟩
  rw [hsend] at hready
  rw [hloaded.clock, hloaded.dispatches] at hcommits'
  -- Looking at the wall clock leaves the bench alone.
  have hstart : wallClock.run bench = (.ok bench.wallClock, bench) := run_wallClock bench
  have hat : design.configureAt bench.wallClock = (do
      send (design.master.counter.load word)
      sendAll (endpoints.flatMap (design.delivery (.ofConfig design.config)))
      Procedure.ofExcept (outcome.map fun _ => word)) := by
    rw [configureAt, hclock, happly]
    simp only [Procedure.bind_assoc]
    cases outcome <;> rfl
  refine ⟨after, ?_, hready.queue, ?_⟩
  · rw [configure_eq, run_bind_of_ok hstart, hat]
    refine (run_bind_of_ok hload _).trans ((run_bind_of_ok hsend _).trans ?_)
    rw [run_ofExcept]
  · rw [configure_eq, commits_bind_of_ok hstart, hat, commits_wallClock, List.nil_append]
    refine (commits_bind_of_ok hload _).trans ?_
    rw [commits_bind_of_ok hsend, commits_ofExcept, List.append_nil, hcommits, hcommits',
      configuration, Access.sent, List.append_assoc]

/-- A design that the standard registry built programs its endpoints in order up to the first one
that its family does not serve, and with all of them if there is none such; the counter is loaded in
any case. -/
theorem configured_of_build (h : Registry.standard.build config = .ok design)
    (hfault : bench.bus.fault = none)
    (hclock : TimestampWord.ofUtc bench.wallClock config.clockHz = .ok word) :
    ((∀ endpoint ∈ config.endpoints, config.Serves endpoint) →
      ∃ after, design.configure.run bench = (.ok word, after) ∧ after.bus.queue = [] ∧
        design.configure.commits bench = design.configuration bench word config.endpoints) ∧
    ∀ before endpoint rest, config.endpoints = before ++ endpoint :: rest →
      (∀ other ∈ before, config.Serves other) → ¬ config.Serves endpoint →
      ∃ after, design.configure.run bench = (.error noMux, after) ∧ after.bus.queue = [] ∧
        design.configure.commits bench = design.configuration bench word before := by
  obtain ⟨-, rfl, ⟨withUpstream, hmaster⟩, -⟩ := exists_of_build_ok h
  have hclock' : TimestampWord.ofUtc bench.wallClock design.master.clockHz = .ok word := by
    rw [hmaster]
    exact hclock
  refine ⟨fun hall => ?_, fun before endpoint rest hsplit hbefore hnot => ?_⟩
  · have happly : applyAll design.calibration design.config.endpoints = (do
        sendAll (design.config.endpoints.flatMap (design.delivery (.ofConfig design.config)))
        Procedure.ofExcept (.ok ())) :=
      (applyAll_eq _ fun endpoint hmem => reaches_of_serves h hmem (hall endpoint hmem)).trans
        (bind_done _).symm
    exact run_configure hfault hclock' happly
  · have hreach : ∀ other ∈ before, design.Reaches other := by
      intro other hmem
      refine reaches_of_serves h ?_ (hbefore other hmem)
      rw [hsplit]
      exact List.mem_append_left _ hmem
    have hrefused : design.calibration.applyStored endpoint false = fail noMux := by
      refine applyStored_of_not_serves h ?_ hnot
      rw [hsplit]
      exact List.mem_append_right _ List.mem_cons_self
    have happly : applyAll design.calibration design.config.endpoints = (do
        sendAll (before.flatMap (design.delivery (.ofConfig design.config)))
        Procedure.ofExcept (.error noMux)) := by
      rw [hsplit]
      exact applyAll_eq_of_refused _ hreach hrefused
    exact run_configure hfault hclock' happly

/-- A configuration of a family without a multiplexer, whose second endpoint hangs off a channel. -/
def halfServed : DesignConfig :=
  { DesignConfig.standard with
    endpoints :=
      [{ id := "near", address := ⟨7⟩, delay := ⟨1, 2, 3⟩, muxChannel := none },
        { id := "far", address := ⟨8⟩, delay := ⟨4, 5, 6⟩, muxChannel := some ⟨0⟩ }] }

/-- The design that the registry builds from this configuration. -/
def halfServing : Design where
  config := halfServed
  master := .ofConfig halfServed false
  mux := none

/-- The first endpoint is programmed and the second one is refused. -/
theorem configured_halfServing :
    ∃ after, halfServing.configure.run (answering 0) = (.error noMux, after) ∧
      after.bus.queue = [] ∧
      halfServing.configure.commits (answering 0) =
        halfServing.configuration (answering 0) ⟨0⟩ (halfServed.endpoints.take 1) := by
  have hbuild : Registry.standard.build halfServed = .ok halfServing := by rfl
  have hclock : TimestampWord.ofUtc (answering 0).wallClock halfServed.clockHz = .ok ⟨0⟩ := by rfl
  refine (configured_of_build hbuild rfl hclock).2 _ _ _ rfl ?_ ?_
  · intro other hmem
    rw [List.mem_singleton.mp hmem]
    exact Or.inr rfl
  · rintro (hfamily | hnone)
    · revert hfamily
      decide
    · cases hnone

/-- Not every configuration that passes the check can be brought to the device: the check lets a
channel pass whose family has no multiplexer. -/
theorem checked_but_refused :
    ¬ ∀ (config : DesignConfig) (design : Design) (bench : Bench) (word : TimestampWord),
      Registry.standard.build config = .ok design → bench.bus.fault = none →
      TimestampWord.ofUtc bench.wallClock config.clockHz = .ok word →
      ∃ result, (design.configure.run bench).1 = .ok result := by
  intro h
  obtain ⟨result, hresult⟩ := h halfServed halfServing (answering 0) ⟨0⟩ rfl rfl rfl
  have hrefused : (halfServing.configure.run (answering 0)).1 = .error noMux := by rfl
  rw [hrefused] at hresult
  cases hresult

end Design

end OpticalTiming
