import OpticalTiming.Proofs.Strobe

/-!
# Sessions with a design

A session is a sequence of calls on one bench, with any disturbance in between: failures to come,
registers left unfilled, tokens that cancel a call on the way, and changes of the device. No call
leaves anything in the queue and every call is orderly, whatever the calls before it have left
behind: `orderly_session` says so of every call of a session.
-/

namespace OpticalTiming

open Procedure

namespace Design

variable {design : Design} {bench : Bench}

/-! ### Measurements and applications -/

/-- Isolating, measuring and releasing is orderly. -/
theorem conducts_release (h : address.IsTarget) (design : Design)
    (settings : CalibrationSettings) (controlSfp : Bool) (channel? : Option MuxChannel) :
    design.Conducts settings (some ⟨address, controlSfp, channel?⟩) (do
      let roundTrip ←
        (design.calibrationWith settings).isolateAndMeasure address controlSfp channel?
      if controlSfp then
        (design.calibrationWith settings).release address
      pure roundTrip) := by
  refine (conducts_isolateAndMeasure h design settings controlSfp channel?).bind fun _ => ?_
  cases controlSfp with
  | false => exact harmless_done _
  | true => exact (harmless_release h).bind fun _ => harmless_done _

theorem conducts_measure (design : Design) (settings : CalibrationSettings)
    (address : EndpointAddress) (controlSfp : Bool) (channel? : Option MuxChannel) :
    design.Conducts settings (some ⟨address, controlSfp, channel?⟩)
      ((design.calibrationWith settings).measure address controlSfp channel?) := by
  cases hcheck : address.checkTarget with
  | ok u =>
    have h := EndpointAddress.checkTarget_eq_ok_iff.mp hcheck
    rw [measure_eq h]
    exact conducts_release h design settings controlSfp channel?
  | error e =>
    rw [measure_refused hcheck]
    exact (harmless_fail e).conducts

theorem conducts_masterMeasure (design : Design) (settings : CalibrationSettings)
    (address : EndpointAddress) (controlSfp : Bool) :
    design.Conducts settings (some ⟨address, controlSfp, none⟩)
      (design.master.measure address controlSfp) := by
  cases hcheck : address.checkTarget with
  | ok u =>
    have h := EndpointAddress.checkTarget_eq_ok_iff.mp hcheck
    rw [master_measure_eq h settings]
    exact conducts_release h design settings controlSfp none
  | error e =>
    rw [master_measure_refused hcheck]
    exact (harmless_fail e).conducts

/-- What an application measures. -/
def linkOf (measureRtt : Bool) (address : EndpointAddress) (controlSfp : Bool)
    (channel? : Option MuxChannel) : Option Link :=
  if measureRtt then some ⟨address, controlSfp, channel?⟩ else none

theorem conducts_apply (hblocks : design.master.echo.block ≠ design.master.delayLine.block)
    (settings : CalibrationSettings) (address : EndpointAddress) (delay : DelayParameters)
    (measureRtt controlSfp : Bool) (channel? : Option MuxChannel) :
    design.Conducts settings (linkOf measureRtt address controlSfp channel?)
      ((design.calibrationWith settings).apply address delay measureRtt controlSfp channel?) := by
  cases measureRtt with
  | false => exact (harmless_apply hblocks settings address delay controlSfp channel?).conducts
  | true =>
    rcases design.apply_cases settings address delay true controlSfp channel? with
      ⟨e, happly⟩ | ⟨h, -, happly⟩
    · rw [happly]
      exact (harmless_fail e).conducts
    · have hmeasure : design.Conducts settings (some ⟨address, controlSfp, channel?⟩)
          ((design.calibrationWith settings).measureIf true address controlSfp channel?) :=
        (conducts_isolateAndMeasure h design settings controlSfp channel?).bind
          fun _ => harmless_done _
      rw [happly]
      exact hmeasure.bind fun roundTrip? => harmless_programming hblocks h delay _ roundTrip?

/-! ### Sessions -/

/-- A call of an operation of a design. -/
inductive Call where
  /-- A measurement by a calibration. -/
  | measure (address : EndpointAddress) (controlSfp : Bool) (channel? : Option MuxChannel)
  /-- A measurement by the master itself. -/
  | measureDirect (address : EndpointAddress) (controlSfp : Bool)
  | apply (address : EndpointAddress) (delay : DelayParameters) (measureRtt controlSfp : Bool)
      (channel? : Option MuxChannel)
  | applyStored (endpoint : StoredCalibration) (measureRtt : Bool)
  | scan (count : UInt32)
  | switchMux (channel : MuxChannel) (waitForLock : Bool)
  | configure

namespace Call

/-- The procedure of a call, without its result; a calibration has the given settings. -/
def procedure (design : Design) (settings : CalibrationSettings) : Call → Procedure Unit
  | measure address controlSfp channel? => do
    let _ ← (design.calibrationWith settings).measure address controlSfp channel?
  | measureDirect address controlSfp => do
    let _ ← design.master.measure address controlSfp
  | apply address delay measureRtt controlSfp channel? => do
    let _ ← (design.calibrationWith settings).apply address delay measureRtt controlSfp channel?
  | applyStored endpoint measureRtt => do
    let _ ← (design.calibrationWith settings).applyStored endpoint measureRtt
  | scan count => do
    let scanner ← Procedure.ofExcept design.scanner
    let _ ← scanner.scan count
  | switchMux channel waitForLock => design.switchMux channel waitForLock
  | configure => do
    let _ ← design.configure

/-- What a call measures, if it does. -/
def measured : Call → Option Link
  | measure address controlSfp channel? => some ⟨address, controlSfp, channel?⟩
  | measureDirect address controlSfp => some ⟨address, controlSfp, none⟩
  | apply address _ measureRtt controlSfp channel? =>
    linkOf measureRtt address controlSfp channel?
  | applyStored endpoint measureRtt =>
    linkOf measureRtt endpoint.address true endpoint.muxChannel
  | scan _ | switchMux _ _ | configure => none

/-- Every call leaves idle benches idle, and is orderly there. -/
theorem conducts (hblocks : design.master.echo.block ≠ design.master.delayLine.block)
    (settings : CalibrationSettings) (call : Call) :
    design.Conducts settings call.measured (call.procedure design settings) := by
  cases call with
  | measure address controlSfp channel? =>
    exact (conducts_measure design settings address controlSfp channel?).bind
      fun _ => harmless_done _
  | measureDirect address controlSfp =>
    exact (conducts_masterMeasure design settings address controlSfp).bind
      fun _ => harmless_done _
  | apply address delay measureRtt controlSfp channel? =>
    exact (conducts_apply hblocks settings address delay measureRtt controlSfp channel?).bind
      fun _ => harmless_done _
  | applyStored endpoint measureRtt =>
    exact (conducts_apply hblocks settings endpoint.address endpoint.delay measureRtt true
      endpoint.muxChannel).bind fun _ => harmless_done _
  | scan count =>
    exact Harmless.conducts (harmless_scanner fun mux =>
      (harmless_scan design mux count).bind fun _ => harmless_done _)
  | switchMux channel waitForLock =>
    exact Harmless.conducts (harmless_scanner fun mux =>
      harmless_switchTo design mux channel waitForLock)
  | configure =>
    exact Harmless.conducts ((harmless_configure hblocks).bind fun _ => harmless_done _)

end Call

/-- What can happen to a bench between two calls. -/
inductive Disturbance where
  /-- A dispatch to come will fail. -/
  | failAfter (successful : Nat) (message : String)
  /-- Reads of the registers will not fill their handles. -/
  | leaveUnfilled (paths : List String)
  /-- The next calls run under another token, cancelled or about to be. -/
  | replaceToken (token : Cancellation)
  | setRegister (path : String) (value : UInt32)
  | scriptReads (path : String) (values : List UInt32)
  | onWrite (path : String) (hook : Hook)
  /-- Time passes. -/
  | pause (ms : Nat)
  /-- The wall clock is set. -/
  | setWallClock (time : UtcTime)

/-- The bench after a disturbance. -/
def Disturbance.act (bench : Bench) : Disturbance → Bench
  | failAfter successful message => { bench with bus := bench.bus.failAfter successful message }
  | leaveUnfilled paths => { bench with bus := bench.bus.leaveUnfilled paths }
  | replaceToken token => { bench with token }
  | setRegister path value => { bench with bus := bench.bus.setRegister path value }
  | scriptReads path values => { bench with bus := bench.bus.scriptReads path values }
  | onWrite path hook => { bench with bus := bench.bus.onWrite path hook }
  | pause ms => { bench with clock := bench.clock + ms }
  | setWallClock time => { bench with wallClock := time }

theorem Disturbance.idle_act (disturbance : Disturbance) (h : bench.Idle) :
    (disturbance.act bench).Idle := by
  cases disturbance <;> exact h

theorem Disturbance.journal_act (disturbance : Disturbance) (bench : Bench) :
    (disturbance.act bench).bus.journal = bench.bus.journal := by
  cases disturbance <;> rfl

/-- A step of a session. The settings of a calibration may be others in every call. -/
inductive Step where
  | call (settings : CalibrationSettings) (call : Call)
  | disturb (disturbance : Disturbance)

/-- A call of a session, with its settings and with what it committed. -/
structure Record where
  settings : CalibrationSettings
  call : Call
  accesses : List Access

/-- The bench after a session. -/
def benchAfter (design : Design) : List Step → Bench → Bench
  | [], bench => bench
  | .call settings call :: rest, bench =>
    design.benchAfter rest ((call.procedure design settings).run bench).2
  | .disturb disturbance :: rest, bench => design.benchAfter rest (disturbance.act bench)

/-- The calls of a session, with what each of them committed. -/
def records (design : Design) : List Step → Bench → List Record
  | [], _ => []
  | .call settings call :: rest, bench =>
    { settings, call, accesses := (call.procedure design settings).commits bench } ::
      design.records rest ((call.procedure design settings).run bench).2
  | .disturb disturbance :: rest, bench => design.records rest (disturbance.act bench)

/-- The calls of a session are all that its journal tells of. -/
theorem journal_benchAfter (steps : List Step) (bench : Bench) :
    (design.benchAfter steps bench).bus.journal =
      bench.bus.journal ++ (design.records steps bench).flatMap Record.accesses := by
  induction steps generalizing bench with
  | nil => exact (List.append_nil _).symm
  | cons step rest ih =>
    cases step with
    | call settings call =>
      rw [benchAfter, records, ih, journal_run, List.append_assoc, List.flatMap_cons]
    | disturb disturbance => rw [benchAfter, records, ih, Disturbance.journal_act]

/-- In every session on a bench with an empty queue, every call is orderly, and nothing else is
committed. -/
theorem orderly_session (hblocks : design.master.echo.block ≠ design.master.delayLine.block)
    (hidle : bench.bus.queue = []) (steps : List Step) :
    (design.benchAfter steps bench).bus.journal =
        bench.bus.journal ++ (design.records steps bench).flatMap Record.accesses ∧
      ∀ record ∈ design.records steps bench,
        design.Orderly record.settings record.call.measured record.accesses := by
  refine ⟨journal_benchAfter steps bench, ?_⟩
  -- Whatever a call leaves behind, the next one needs no more than an empty queue.
  induction steps generalizing bench with
  | nil => rintro record ⟨⟩
  | cons step rest ih =>
    cases step with
    | call settings call =>
      obtain ⟨hafter, horderly⟩ := call.conducts hblocks settings bench hidle
      intro record hrecord
      rcases List.mem_cons.mp hrecord with rfl | hrecord
      · exact horderly
      · exact ih hafter record hrecord
    | disturb disturbance => exact ih (disturbance.idle_act hidle)

/-- A session with the reference system: a measurement that fails on the way, and an application
that measures again. -/
def referenceSession : List Step :=
  [.disturb (.failAfter 4 "link down"),
    .call (.ofConfig reference.config) (.measure ⟨7⟩ true (some ⟨2⟩)),
    .call (.ofConfig reference.config) (.apply ⟨7⟩ ⟨40, 5, 6⟩ true true (some ⟨2⟩)),
    .call (.ofConfig reference.config) (.scan 3)]

/-- The rules at a session with the reference system. -/
theorem orderly_referenceSession :
    (reference.benchAfter referenceSession (answering 0)).bus.journal =
        (answering 0).bus.journal ++
          (reference.records referenceSession (answering 0)).flatMap Record.accesses ∧
      ∀ record ∈ reference.records referenceSession (answering 0),
        reference.Orderly record.settings record.call.measured record.accesses := by
  have hblocks : reference.master.echo.block ≠ reference.master.delayLine.block := by decide
  have hidle : (answering 0).bus.queue = [] := rfl
  exact orderly_session hblocks hidle referenceSession

/-- Settings that let a channel settle for longer than the longest wait. -/
def longSettling : CalibrationSettings where
  muxSettle := 946080001000

/-- A measurement of the reference system with these settings. -/
def longRecord : Record where
  settings := longSettling
  call := .measure ⟨7⟩ true (some ⟨2⟩)
  accesses :=
    (Call.procedure reference longSettling (.measure ⟨7⟩ true (some ⟨2⟩))).commits (answering 0)

/-- The strobe of this measurement. -/
def longStrobe : Access := .written 5 946080000100 ("master.echo.csr.ctrl.go", 1)

/-- A channel need not have settled for as long as its settings say: a time beyond the longest wait
is cut short, and the strobe follows before it has passed. -/
theorem strobe_before_settled :
    ¬ ∀ (design : Design) (bench : Bench) (steps : List Step),
      design.master.echo.block ≠ design.master.delayLine.block → bench.bus.queue = [] →
      ∀ record ∈ design.records steps bench, ∀ link, record.call.measured = some link →
      ∀ channel, link.channel? = some channel →
      ∀ before strobe after, record.accesses = before ++ strobe :: after →
        design.IsStrobe strobe →
        ∃ mux selected, design.mux = some mux ∧
          (Access.writesTo mux.selectPath before).getLast? = some selected ∧
          selected.time + record.settings.muxSettle.toNat ≤ strobe.time := by
  intro h
  have hblocks : reference.master.echo.block ≠ reference.master.delayLine.block := by decide
  have hidle : (answering 0).bus.queue = [] := rfl
  have hrecord : longRecord ∈
      reference.records [.call longSettling longRecord.call] (answering 0) := List.mem_cons_self
  have hsplit : longRecord.accesses =
      longRecord.accesses.take 6 ++ longStrobe :: longRecord.accesses.drop 7 := by decide +kernel
  have hstrobe : reference.IsStrobe longStrobe := by
    refine ⟨rfl, ?_⟩
    decide +kernel
  obtain ⟨mux, selected, hmux, hlast, hsettled⟩ :=
    h reference (answering 0) _ hblocks hidle longRecord hrecord ⟨⟨7⟩, true, some ⟨2⟩⟩ rfl ⟨2⟩ rfl
      _ longStrobe _ hsplit hstrobe
  have htime : (Access.writesTo mux.selectPath (longRecord.accesses.take 6)).getLast?.map
      Access.time = some 0 := by
    cases hmux
    decide +kernel
  rw [hlast] at htime
  have hzero : selected.time = 0 := Option.some.inj htime
  have hlong : ¬ 0 + longRecord.settings.muxSettle.toNat ≤ longStrobe.time := by decide
  rw [hzero] at hsettled
  exact hlong hsettled

end Design

end OpticalTiming
