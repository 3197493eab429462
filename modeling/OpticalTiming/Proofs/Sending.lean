import OpticalTiming.Proofs.Applying

/-!
# Batches of writes

`Procedure.sendAll` sends batches of writes, each in a dispatch of its own. Without a failure to
come all batches arrive (`run_sendAll`); where nothing was queued they are all that is committed, in
order and without a pause (`delivers_sendAll`).

A procedure that `OnlySends` settles its batches and its result before it looks at any bench
(`OnlySends.delivers`). Such is all that an application does besides measuring (`onlySends_apply`,
`onlySends_applyAll`), and all that a configuration does once it knows the time
(`onlySends_configureAt`).
-/

namespace OpticalTiming

open Procedure

namespace Procedure

/-- Sends batches of writes, each in a dispatch of its own. -/
def sendAll : List (List (String × UInt32)) → Procedure Unit
  | [] => done ()
  | pairs :: rest => do
    send pairs
    sendAll rest

theorem sendAll_append (first second : List (List (String × UInt32))) :
    sendAll (first ++ second) = (do
      sendAll first
      sendAll second) := by
  induction first with
  | nil => rfl
  | cons pairs rest ih => rw [List.cons_append, sendAll, ih, sendAll, bind_assoc]

end Procedure

/-- What batches of writes leave in the journal if the dispatch of the first one has the given
number. -/
def Access.sent (time : Nat) : (number : Nat) → List (List (String × UInt32)) → List Access
  | _, [] => []
  | number, pairs :: rest => pairs.map (.written number time) ++ sent time (number + 1) rest

namespace Procedure

variable {bench : Bench}

/-- Without a failure to come, all batches arrive, and without a pause. -/
theorem run_sendAll (batches : List (List (String × UInt32))) (hfault : bench.bus.fault = none) :
    ∃ after, (sendAll batches).run bench = (.ok (), after) ∧ after.bus.fault = none ∧
      after.clock = bench.clock := by
  induction batches generalizing bench with
  | nil => exact ⟨bench, rfl, hfault, rfl⟩
  | cons pairs rest ih =>
    obtain ⟨sent, hsend, hsent, -⟩ := run_send_of_healthy pairs hfault
    have hfault' : sent.bus.fault = none := by rw [hsent.fault, hfault]; rfl
    obtain ⟨after, hrest, hnone, hclock⟩ := ih hfault'
    exact ⟨after, (run_bind_of_ok hsend _).trans hrest, hnone, hclock.trans hsent.clock⟩

end Procedure

/-- A bench on which nothing is queued and no dispatch is arranged to fail. -/
structure Bench.Ready (bench : Bench) : Prop where
  queue : bench.bus.queue = []
  fault : bench.bus.fault = none

theorem Bench.Ready.of_dispatched {bench after : Bench} (h : bench.Ready)
    (hdispatched : bench.Dispatched after) : after.Ready where
  queue := hdispatched.queue
  fault := by
    rw [hdispatched.fault, h.fault]
    rfl

namespace Procedure

variable {α β : Type} {bench : Bench}

/-- What is known of a run that has a certain result and commits certain batches of writes, in no
time. -/
structure Delivers (p : Procedure α) (result : Except Error α)
    (batches : List (List (String × UInt32))) (bench : Bench) : Prop where
  result_eq : (p.run bench).1 = result
  ready : (p.run bench).2.Ready
  clock : (p.run bench).2.clock = bench.clock
  commits : p.commits bench = Access.sent bench.clock (bench.bus.dispatches + 1) batches

/-- Where nothing was queued, the batches are all that is committed. -/
theorem delivers_sendAll (batches : List (List (String × UInt32))) (h : bench.Ready) :
    (sendAll batches).Delivers (.ok ()) batches bench := by
  induction batches generalizing bench with
  | nil => exact ⟨rfl, h, rfl, commits_done _ _⟩
  | cons pairs rest ih =>
    obtain ⟨sent, hsend, hsent, hcommits⟩ := run_send_of_healthy pairs h.fault
    obtain ⟨hresult, hready, hclock, hrest⟩ := ih (h.of_dispatched hsent)
    have hrun : (sendAll (pairs :: rest)).run bench = (sendAll rest).run sent :=
      run_bind_of_ok hsend _
    rw [Bus.flushed_of_queue_nil h.queue, List.nil_append] at hcommits
    rw [hsent.clock, hsent.dispatches] at hrest
    constructor
    · rw [hrun, hresult]
    · rw [hrun]
      exact hready
    · rw [hrun, hclock, hsent.clock]
    · rw [sendAll, commits_bind_of_ok hsend, hcommits, hrest]
      rfl

/-- A result that is known beforehand takes nothing away from the batches. -/
theorem delivers_sendAll_ofExcept (batches : List (List (String × UInt32)))
    (result : Except Error α) (h : bench.Ready) :
    (do sendAll batches; Procedure.ofExcept result).Delivers result batches bench := by
  obtain ⟨hresult, hready, hclock, hcommits⟩ := delivers_sendAll batches h
  have hsend : (sendAll batches).run bench = (.ok (), ((sendAll batches).run bench).2) :=
    Prod.ext hresult rfl
  have hrun : (sendAll batches >>= fun _ => Procedure.ofExcept result).run bench =
      (result, ((sendAll batches).run bench).2) := by
    rw [run_bind_of_ok hsend, run_ofExcept]
  constructor
  · rw [hrun]
  · rw [hrun]
    exact hready
  · rw [hrun, hclock]
  · rw [commits_bind_of_ok hsend, commits_ofExcept, List.append_nil, hcommits]

/-! ### Procedures that do nothing but send -/

/-- Whether a procedure sends batches of writes and then ends in a way that is known beforehand. -/
def OnlySends (p : Procedure α) : Prop :=
  ∃ batches result, Raises result ∧ p = (do sendAll batches; Procedure.ofExcept result)

theorem onlySends_ofExcept {result : Except Error α} (h : Raises result) :
    (Procedure.ofExcept result).OnlySends :=
  ⟨[], result, h, rfl⟩

theorem onlySends_done (a : α) : (done a).OnlySends := onlySends_ofExcept (raises_ok a)

theorem onlySends_fail {e : Error} (he : e.isRaised) : (fail e : Procedure α).OnlySends :=
  onlySends_ofExcept (raises_error he)

theorem onlySends_send (pairs : List (String × UInt32)) : (send pairs).OnlySends := by
  refine ⟨[pairs], .ok (), raises_ok (), ?_⟩
  rw [sendAll, bind_assoc]
  exact (bind_done _).symm

theorem onlySends_sendAll (batches : List (List (String × UInt32))) (a : α) :
    OnlySends (do sendAll batches; pure a) :=
  ⟨batches, .ok a, raises_ok a, rfl⟩

/-- The batches of a sequence are those of its parts, as far as it comes. -/
theorem OnlySends.bind {p : Procedure α} {f : α → Procedure β} (hp : p.OnlySends)
    (hf : ∀ a, (f a).OnlySends) : (p >>= f).OnlySends := by
  obtain ⟨batches, result, hraises, rfl⟩ := hp
  cases result with
  | error e =>
    refine ⟨batches, .error e, raises_error (hraises e rfl), ?_⟩
    rw [bind_assoc]
    rfl
  | ok a =>
    obtain ⟨batches', result', hraises', hrest⟩ := hf a
    refine ⟨batches ++ batches', result', hraises', ?_⟩
    rw [bind_assoc, sendAll_append, bind_assoc, ← hrest]
    rfl

/-- A procedure that only sends does the same on all benches. -/
theorem OnlySends.delivers {p : Procedure α} (hp : p.OnlySends) :
    ∃ result batches, Raises result ∧
      ∀ bench : Bench, bench.Ready → p.Delivers result batches bench := by
  obtain ⟨batches, result, hraises, rfl⟩ := hp
  exact ⟨result, batches, hraises, fun bench h => delivers_sendAll_ofExcept batches result h⟩

end Procedure

namespace Design

variable {design : Design} {settings : CalibrationSettings} {address : EndpointAddress}
  {delay : DelayParameters} {controlSfp : Bool} {channel? : Option MuxChannel}

/-- The batches of an application: the delays, and the release if there is one. -/
def programming (design : Design) (address : EndpointAddress) (delay : DelayParameters)
    (release : Bool) : List (List (String × UInt32)) :=
  design.master.delayLine.pairs address delay ::
    if release then [[(design.master.transmitters.controlPath, address.value)]] else []

/-- Programming the delays of an endpoint and releasing its transmitter sends these batches. -/
theorem send_finish_eq (design : Design) (settings : CalibrationSettings)
    (htarget : address.IsTarget) (delay : DelayParameters) (release : Bool)
    (value? : Option RoundTrip) :
    (do send (design.master.delayLine.pairs address delay)
        design.finish settings address release value?) = (do
      sendAll (design.programming address delay release)
      pure value?) := by
  rw [programming, sendAll, bind_assoc]
  refine congrArg (send _ >>= ·) (funext fun _ => ?_)
  cases release with
  | false => rfl
  | true =>
    rw [finish_true_eq htarget, if_pos rfl, sendAll, bind_assoc]
    rfl

/-- An application that does not measure sends its batches. -/
theorem applySteps_eq (htarget : address.IsTarget) :
    design.applySteps settings address delay false controlSfp channel? = (do
      sendAll (design.programming address delay (releases settings false controlSfp channel?))
      pure none) :=
  design.send_finish_eq settings htarget delay _ none

/-- An application that does not measure refuses its arguments, or it sends its batches. -/
theorem onlySends_apply (design : Design) (settings : CalibrationSettings)
    (address : EndpointAddress) (delay : DelayParameters) (controlSfp : Bool)
    (channel? : Option MuxChannel) :
    ((design.calibrationWith settings).apply address delay false controlSfp channel?).OnlySends := by
  rcases design.apply_raises_or settings address delay false controlSfp channel? with
    ⟨e, he, hrefused⟩ | ⟨htarget, -, happly⟩
  · rw [hrefused]
    exact onlySends_fail he
  · rw [happly, applySteps_eq htarget]
    exact onlySends_sendAll _ none

/-- So do all applications of a configuration together, up to the first one that is refused. -/
theorem onlySends_applyAll (design : Design) (settings : CalibrationSettings)
    (endpoints : List StoredCalibration) :
    (applyAll (design.calibrationWith settings) endpoints).OnlySends := by
  induction endpoints with
  | nil => exact onlySends_done ()
  | cons endpoint rest ih =>
    exact (design.onlySends_apply settings endpoint.address endpoint.delay true
      endpoint.muxChannel).bind fun _ => ih

/-- What configuring does once the wall clock is known. -/
def configureAt (design : Design) (time : UtcTime) : Procedure TimestampWord := do
  let word ← Procedure.ofExcept (TimestampWord.ofUtc time design.master.clockHz)
  send (design.master.counter.load word)
  applyAll design.calibration design.config.endpoints
  pure word

theorem configure_eq (design : Design) : design.configure = wallClock >>= design.configureAt := by
  unfold configure configureAt Master.syncCounter TimestampCounter.sync
  simp only [Procedure.bind_assoc, TimestampCounter.set_eq]
  rfl

/-- Once the wall clock is known, so is all that is sent: the counter value, and then the delays of
the endpoints. -/
theorem onlySends_configureAt (design : Design) (time : UtcTime) :
    (design.configureAt time).OnlySends :=
  (onlySends_ofExcept (raises_ofUtc time _)).bind fun word =>
    (onlySends_send (design.master.counter.load word)).bind fun _ =>
      (design.onlySends_applyAll (.ofConfig design.config) design.config.endpoints).bind fun _ =>
        onlySends_done word

end Design

end OpticalTiming
