import OpticalTiming.Proofs.Agreeing
import OpticalTiming.Proofs.Polling
import OpticalTiming.Proofs.Sending
import OpticalTiming.Proofs.Session

/-!
# What follows a refusal

A bench refuses a dispatch with an error of the bus and a wait with a cancellation.
`Procedure.After` says of the tree of requests alone what a procedure does after such a refusal; a
procedure that `Escalates` an error does nothing more and ends with it.

`Compositional` is for properties like this one, which pass from the parts of a procedure to the
whole and hold of every exchange and every wait. They hold of every call of a design (`perform`),
except that handling the failure of a link is looked at apart: the transmitter is then switched
off, and a refusal of that dispatch is not what the call reports.
-/

namespace OpticalTiming

open Procedure

/-- A fatal error concerns more than a single link. -/
theorem Error.isLinkFailure_eq_false_of_isFatal {e : Error} (h : e.isFatal) :
    e.isLinkFailure = false := by
  refine Bool.eq_false_iff.mpr fun hlink => ?_
  rw [Error.isFatal_eq_false_of_isLinkFailure hlink] at h
  cases h

/-! ### Refusals -/

namespace Procedure

variable {α β : Type} {e : Error}

/-- Whether a reply refuses a request with a fatal error: a dispatch with an error of the bus, or a
wait with a cancellation. -/
def Refuses : Error → (request : Request) → request.Reply → Prop
  | .bus message, .dispatch, reply => reply = .error (.bus message)
  | .cancelled, .wait _, reply => reply = .error .cancelled
  | _, _, _ => False

/-- Whether `Q` holds of the rest of a procedure after every refusal with `e`. -/
def After (e : Error) (Q : Procedure α → Prop) : Procedure α → Prop
  | done _ => True
  | fail _ => True
  | ask request next =>
    ∀ reply, (Refuses e request reply → Q (next reply)) ∧ (next reply).After e Q

theorem After.bind {p : Procedure α} {f : α → Procedure β} {Q : Procedure α → Prop}
    {Q' : Procedure β → Prop} (hp : p.After e Q) (hQ : ∀ q, Q q → Q' (q >>= f))
    (hf : ∀ a, (f a).After e Q') : (p >>= f).After e Q' := by
  induction p with
  | done a => exact hf a
  | fail e => trivial
  | ask request next ih =>
    exact fun reply => ⟨fun h => hQ _ ((hp reply).1 h), ih reply (hp reply).2⟩

theorem After.attempt {p : Procedure α} {Q : Procedure α → Prop}
    {Q' : Procedure (Except Error α) → Prop} (hp : p.After e Q) (hQ : ∀ q, Q q → Q' q.attempt) :
    p.attempt.After e Q' := by
  induction p with
  | done a => trivial
  | fail e => trivial
  | ask request next ih =>
    exact fun reply => ⟨fun h => hQ _ ((hp reply).1 h), ih reply (hp reply).2⟩

theorem After.mono {p : Procedure α} {Q Q' : Procedure α → Prop} (hp : p.After e Q)
    (hQ : ∀ q, Q q → Q' q) : p.After e Q' := by
  induction p with
  | done a => trivial
  | fail e => trivial
  | ask request next ih =>
    exact fun reply => ⟨fun h => hQ _ ((hp reply).1 h), ih reply (hp reply).2⟩

/-- Whether a procedure ends with `e` wherever it is refused with `e`. -/
def Escalates (e : Error) (p : Procedure α) : Prop := p.After e (· = fail e)

theorem Escalates.bind {p : Procedure α} {f : α → Procedure β} (hp : p.Escalates e)
    (hf : ∀ a, (f a).Escalates e) : (p >>= f).Escalates e :=
  After.bind hp (by rintro q rfl; rfl) hf

/-- Handling the failure of a procedure leaves it escalating if the handler passes the error on. -/
theorem Escalates.handle {p : Procedure α} {f : Except Error α → Procedure β}
    (hp : p.Escalates e) (he : f (.error e) = fail e) (hf : ∀ result, (f result).Escalates e) :
    (p.attempt >>= f).Escalates e := by
  have hattempt : p.attempt.After e (· = done (.error e)) :=
    After.attempt hp (by rintro q rfl; rfl)
  refine hattempt.bind ?_ hf
  rintro q rfl
  exact he

theorem escalates_ofExcept (r : Except Error α) : (ofExcept r).Escalates e := by
  cases r <;> trivial

theorem escalates_dispatch : dispatch.Escalates e := by
  intro reply
  refine ⟨fun h => ?_, escalates_ofExcept reply⟩
  cases e with
  | bus message => exact congrArg ofExcept h
  | _ => cases h

theorem escalates_wait (ms : Nat) : (wait ms).Escalates e := by
  intro reply
  refine ⟨fun h => ?_, escalates_ofExcept reply⟩
  cases e with
  | cancelled => exact congrArg ofExcept h
  | _ => cases h

theorem escalates_ask {request : Request} {next : request.Reply → Procedure α}
    (hrequest : ∀ reply, ¬ Refuses e request reply) (hnext : ∀ reply, (next reply).Escalates e) :
    (ask request next).Escalates e :=
  fun reply => ⟨fun h => absurd h (hrequest reply), hnext reply⟩

theorem escalates_read (path : String) : (read path).Escalates e :=
  escalates_ask (fun _ h => by cases e <;> cases h) fun _ => trivial

theorem escalates_write (path : String) (value : UInt32) : (write path value).Escalates e :=
  escalates_ask (fun _ h => by cases e <;> cases h) fun _ => trivial

theorem escalates_value (handle : Handle) : (value handle).Escalates e :=
  escalates_ask (fun _ h => by cases e <;> cases h) escalates_ofExcept

theorem escalates_now : now.Escalates e :=
  escalates_ask (fun _ h => by cases e <;> cases h) fun _ => trivial

theorem escalates_wallClock : wallClock.Escalates e :=
  escalates_ask (fun _ h => by cases e <;> cases h) fun _ => trivial

/-! ### Exchanges and polls -/

theorem sequential_escalates (e : Error) : Sequential fun _ p => p.Escalates e where
  done _ := trivial
  bind := Escalates.bind

theorem escalates_send (pairs : List (String × UInt32)) : (send pairs).Escalates e :=
  (sequential_escalates e).send (fun pair _ => escalates_write pair.1 pair.2) escalates_dispatch

/-- Nothing that is sent waits, so nothing follows its cancellation. -/
theorem after_cancelled_send (pairs : List (String × UInt32)) (Q : Procedure Unit → Prop) :
    (send pairs).After .cancelled Q := by
  induction pairs with
  | nil => exact fun reply => ⟨False.elim, by cases reply <;> trivial⟩
  | cons pair rest ih => exact fun reply => ⟨False.elim, ih⟩

/-- No wait of a procedure that only sends is ever refused, for it has none. -/
theorem OnlySends.after_cancelled {p : Procedure α} (hp : p.OnlySends) :
    p.After .cancelled fun _ => False := by
  obtain ⟨batches, result, -, rfl⟩ := hp
  induction batches with
  | nil => cases result <;> trivial
  | cons pairs rest ih =>
    rw [sendAll, bind_assoc]
    exact (after_cancelled_send pairs fun _ => False).bind (fun _ => False.elim) fun _ => ih

theorem escalates_fetch (block : RegisterBlock) (leaf : String) :
    (block.fetch leaf).Escalates e :=
  (sequential_escalates e).fetch (escalates_read _) escalates_dispatch escalates_value

theorem escalates_snapshot (block : RegisterBlock) (leaves : List String) :
    (block.snapshot leaves).Escalates e :=
  (sequential_escalates e).snapshot (fun leaf _ => escalates_read (block.path leaf))
    escalates_dispatch escalates_value

theorem escalates_pollUntil {interval timeout : Nat} {check : Procedure Bool}
    (hcheck : check.Escalates e) : (pollUntil interval timeout check).Escalates e :=
  (sequential_escalates e).pollUntil (escalates_wait interval) escalates_now hcheck

end Procedure

/-! ### From the exchanges to the calls -/

/-- A property of procedures that passes from the parts of a procedure to the whole and holds of
every exchange, wait and poll. -/
structure Compositional (P : (α : Type) → Procedure α → Prop) : Prop where
  done : ∀ {α} (a : α), P α (done a)
  /-- The errors of the bench are for the bench to report. -/
  fail : ∀ {α} (e : Error), e.isRaised → P α (fail e)
  bind : ∀ {α β} {p : Procedure α} {f : α → Procedure β}, P α p → (∀ a, P β (f a)) → P β (p >>= f)
  /-- A handler has to pass on all errors but the failures of links. -/
  handle : ∀ {α β} {p : Procedure α} {f : Except Error α → Procedure β}, P α p →
    (∀ e, e.isLinkFailure = false → f (.error e) = Procedure.fail e) →
    (∀ a, P β (f (.ok a))) → (∀ e, e.isLinkFailure → P β (f (.error e))) → P β (p.attempt >>= f)
  send : ∀ pairs, P Unit (send pairs)
  wait : ∀ ms, P Unit (wait ms)
  wallClock : P UtcTime wallClock
  poll : ∀ interval timeout (block : RegisterBlock) leaf accept,
    P PollOutcome (pollUntil interval timeout (block.check leaf accept))
  stamps : ∀ block : RegisterBlock, P Snapshot (block.snapshot EchoMonitor.stampLeaves)

/-- What holds of every error holds of a handler that passes on all but the failures of links. -/
theorem forall_handler {α β : Type} {P : Procedure β → Prop} {f : Except Error α → Procedure β}
    (hfail : ∀ e, P (fail e)) (hpass : ∀ e, e.isLinkFailure = false → f (.error e) = fail e)
    (hok : ∀ a, P (f (.ok a))) (hlink : ∀ e, e.isLinkFailure → P (f (.error e))) :
    ∀ result, P (f result) := by
  rintro (e | a)
  · cases he : e.isLinkFailure with
    | false => exact hpass e he ▸ hfail e
    | true => exact hlink e he
  · exact hok a

/-- A fatal error ends the parts of a procedure, and with them the whole. -/
theorem compositional_escalates {e : Error} (he : e.isFatal) :
    Compositional fun _ p => p.Escalates e where
  done _ := trivial
  fail _ _ := trivial
  bind := Escalates.bind
  handle hp hpass hok hlink :=
    hp.handle (hpass e (Error.isLinkFailure_eq_false_of_isFatal he))
      (forall_handler (fun _ => trivial) hpass hok hlink)
  send := escalates_send
  wait := escalates_wait
  wallClock := escalates_wallClock
  poll _ _ block leaf _ :=
    escalates_pollUntil ((escalates_fetch block leaf).bind fun _ => trivial)
  stamps block := escalates_snapshot block _

namespace Compositional

variable {P : (α : Type) → Procedure α → Prop} (h : Compositional P)
include h

theorem ofExcept {α : Type} {r : Except Error α} (hr : Raises r) :
    P α (Procedure.ofExcept r) := by
  cases r with
  | ok a => exact h.done a
  | error e => exact h.fail e (hr e rfl)

theorem onlySends {α : Type} {p : Procedure α} (hp : p.OnlySends) : P α p := by
  obtain ⟨batches, result, hraises, rfl⟩ := hp
  refine h.bind ?_ fun _ => h.ofExcept hraises
  induction batches with
  | nil => exact h.done ()
  | cons pairs rest ih => exact h.bind (h.send pairs) fun _ => ih

theorem configure (design : Design) : P TimestampWord design.configure := by
  rw [Design.configure_eq]
  exact h.bind h.wallClock fun time => h.onlySends (design.onlySends_configureAt time)

/-! #### The blocks of a master -/

theorem enable (receiver : UpstreamReceiver) : P Bool receiver.enable := by
  rw [UpstreamReceiver.enable_eq]
  exact h.bind (h.send _) fun _ => h.bind (h.send _) fun _ =>
    h.bind (h.poll _ _ receiver.block _ _) fun outcome => h.done outcome.satisfied

theorem enableUpstream (master : Master) : P Bool master.enableUpstream := by
  unfold Master.enableUpstream
  split
  · exact h.enable _
  · exact h.fail _ rfl

theorem readRoundTrip (monitor : EchoMonitor) : P RoundTrip monitor.readRoundTrip :=
  h.bind (h.stamps monitor.block) fun stamps => h.ofExcept <|
    (raises_get stamps _).bind fun _ => (raises_get stamps _).bind fun _ =>
      (raises_get stamps _).bind fun _ => (raises_get stamps _).bind fun _ => raises_between _ _

theorem collectEcho (monitor : EchoMonitor) (options : EchoOptions) :
    P RoundTrip (monitor.collectEcho options) := by
  refine h.bind (h.poll _ _ monitor.block _ _) fun outcome => ?_
  split
  · exact h.readRoundTrip monitor
  · exact h.fail _ rfl

theorem echo (monitor : EchoMonitor) (options : EchoOptions) :
    P RoundTrip (monitor.measure options) := by
  rw [EchoMonitor.measure_eq]
  exact h.bind (h.send _) fun _ => h.collectEcho monitor options

/-- A trip hands its failures over in its result, so an attempt must have the property too. -/
theorem trip (hattempt : ∀ {α} {p : Procedure α}, P α p → P (Except Error α) p.attempt)
    (trip : EchoTrip) : P (Except Error RoundTrip × EchoTrip) trip.run := by
  unfold EchoTrip.run
  split
  · refine h.bind (hattempt (h.send [(trip.monitor.strobePath, 1)])) fun result => ?_
    cases result with
    | error e => exact h.done _
    | ok u =>
      refine h.bind (hattempt (h.poll _ _ trip.monitor.block _ _)) fun result => ?_
      cases result with
      | error e => exact h.done _
      | ok outcome =>
        dsimp only
        split
        · refine h.bind (hattempt (h.readRoundTrip _)) fun result => ?_
          cases result <;> exact h.done _
        · exact h.done _
  · exact h.done _

theorem lockAndEcho (master : Master) (address : EndpointAddress) :
    P RoundTrip (master.lockAndEcho address) := by
  cases hupstream : master.upstream with
  | none =>
    rw [Master.lockAndEcho_of_none hupstream]
    exact h.echo _ _
  | some receiver =>
    rw [Master.lockAndEcho_of_some hupstream]
    refine h.bind (h.enable receiver) fun locked => ?_
    cases locked with
    | true => exact h.echo _ _
    | false => exact h.fail _ rfl

/-! #### Scans -/

theorem switchTo (master : Master) (mux : FanoutMux) (channel : MuxChannel) (waitForLock : Bool) :
    P Unit ((MuxScanner.ofMaster master mux).switchTo channel waitForLock) := by
  have hselect : P Unit (mux.select channel) :=
    h.bind (h.ofExcept (raises_checkChannel_mux mux channel)) fun _ =>
      h.send [(mux.selectPath, channel.index)]
  refine h.bind hselect fun _ => ?_
  cases waitForLock with
  | false => exact h.done ()
  | true =>
    refine h.bind (h.enableUpstream master) fun locked => ?_
    cases locked with
    | true => exact h.done ()
    | false => exact h.fail _ rfl

theorem scanFrom (master : Master) (mux : FanoutMux) (first : UInt32) (count : Nat) :
    P ScanReport ((MuxScanner.ofMaster master mux).scanFrom first count) := by
  induction count generalizing first with
  | zero => exact h.done _
  | succ count ih =>
    -- A channel is skipped for the failure of its link, and for nothing else.
    refine h.handle (h.switchTo master mux ⟨first⟩ true) (fun e he => ?_) (fun u => ?_)
      fun e he => ?_
    · dsimp only
      rw [he]
      rfl
    · exact h.bind (ih (first + 1)) fun _ => h.done _
    · dsimp only
      rw [he]
      exact h.bind (ih (first + 1)) fun _ => h.done _

theorem scan (master : Master) (mux : FanoutMux) (count : UInt32) :
    P ScanReport ((MuxScanner.ofMaster master mux).scan count) := by
  unfold MuxScanner.scan
  split
  · exact h.fail _ rfl
  · exact h.scanFrom master mux 0 count.toNat

/-- What is done with the scanner of a design. -/
theorem scanner {α : Type} {f : MuxScanner → Procedure α} (design : Design)
    (hf : ∀ mux, P α (f (.ofMaster design.master mux))) :
    P α (Procedure.ofExcept design.scanner >>= f) := by
  unfold Design.scanner
  cases design.mux with
  | none => exact h.fail _ rfl
  | some mux => exact hf mux

/-! #### Calibrations -/

variable {design : Design} {settings : CalibrationSettings} {address : EndpointAddress}
  {controlSfp : Bool} {channel? : Option MuxChannel}

theorem release (htarget : address.IsTarget) :
    P Unit ((design.calibrationWith settings).release address) := by
  rw [Design.release_eq htarget]
  exact h.send _

theorem route (htarget : address.IsTarget) (design : Design) (settings : CalibrationSettings)
    (controlSfp : Bool) (channel? : Option MuxChannel) :
    P Unit ((design.calibrationWith settings).route address controlSfp channel?) := by
  cases hcheck : (design.calibrationWith settings).checkChannel channel? with
  | error e =>
    rw [Design.route_refused hcheck]
    exact h.fail e (raises_checkChannel _ channel? e hcheck)
  | ok u =>
    cases channel? with
    | some channel =>
      rw [Design.route_channel htarget (Design.checkChannel_eq_ok_iff.mp hcheck) rfl]
      exact h.bind (h.send _) fun _ => h.wait _
    | none =>
      cases controlSfp with
      | false => exact h.done ()
      | true =>
        rw [Design.route_direct htarget]
        exact h.send _

/-- A measurement has the property if the handling of a failure of its link has it. -/
theorem isolateAndMeasure (htarget : address.IsTarget)
    (hrelease : controlSfp = true → ∀ e : Error, e.isLinkFailure → P RoundTrip
      (((design.calibrationWith settings).release address).attempt >>= fun _ => .fail e)) :
    P RoundTrip
      ((design.calibrationWith settings).isolateAndMeasure address controlSfp channel?) := by
  rw [Design.isolateAndMeasure_eq htarget]
  refine h.bind (h.route htarget design settings controlSfp channel?) fun _ =>
    h.handle (h.lockAndEcho design.master address) (fun e he => ?_) (fun roundTrip => ?_)
      fun e he => ?_
  · rw [Design.conclude, Design.releaseAfter, he, Bool.and_false]
    rfl
  · exact h.done roundTrip
  · rw [Design.conclude, Design.releaseAfter, he, Bool.and_true]
    cases controlSfp with
    | false => exact h.fail e (Error.isRaised_of_isLinkFailure he)
    | true => exact hrelease rfl e he

end Compositional

/-! ### Calls with their results -/

namespace Design

variable {design : Design} {settings : CalibrationSettings} {call : Call} {link : Link}

/-- The type of the result of a call. -/
def Call.Result : Call → Type
  | measure _ _ _ | measureDirect _ _ => RoundTrip
  | apply _ _ _ _ _ | applyStored _ _ => Option RoundTrip
  | scan _ => ScanReport
  | switchMux _ _ => Unit
  | configure => TimestampWord

/-- The procedure of a call; a calibration has the given settings. -/
def Call.perform (design : Design) (settings : CalibrationSettings) :
    (call : Call) → Procedure call.Result
  | measure address controlSfp channel? =>
    (design.calibrationWith settings).measure address controlSfp channel?
  | measureDirect address controlSfp => design.master.measure address controlSfp
  | apply address delay measureRtt controlSfp channel? =>
    (design.calibrationWith settings).apply address delay measureRtt controlSfp channel?
  | applyStored endpoint measureRtt =>
    (design.calibrationWith settings).applyStored endpoint measureRtt
  | scan count => do
    let scanner ← Procedure.ofExcept design.scanner
    scanner.scan count
  | switchMux channel waitForLock => design.switchMux channel waitForLock
  | configure => design.configure

/-- The measurement of a link, without what a call does afterwards. -/
def Link.measure (design : Design) (settings : CalibrationSettings) (link : Link) :
    Procedure RoundTrip :=
  (design.calibrationWith settings).isolateAndMeasure link.address link.controlSfp link.channel?

/-- What a call does once it has measured: it sends batches of writes, and ends with a value. -/
def Follows {α : Type} (rest : RoundTrip → Procedure α) : Prop :=
  ∀ roundTrip, ∃ batches value, rest roundTrip = (do sendAll batches; pure value)

namespace Follows

variable {α : Type} {rest : RoundTrip → Procedure α}

theorem compositional (h : Follows rest) {P : (α : Type) → Procedure α → Prop}
    (hP : Compositional P) (roundTrip : RoundTrip) : P α (rest roundTrip) := by
  obtain ⟨batches, value, hrest⟩ := h roundTrip
  rw [hrest]
  exact hP.onlySends (onlySends_sendAll batches value)

/-- It succeeds unless one of its dispatches fails. -/
theorem ok (h : Follows rest) (roundTrip : RoundTrip) {bench : Bench}
    (hfault : bench.bus.fault = none) :
    ∃ value after, (rest roundTrip).run bench = (.ok value, after) := by
  obtain ⟨batches, value, hrest⟩ := h roundTrip
  obtain ⟨after, hrun, -⟩ := run_sendAll batches hfault
  rw [hrest]
  exact ⟨value, after, run_bind_of_ok hrun _⟩

end Follows

/-- A measurement on its own is followed by a release, if it controls transmitters. -/
theorem follows_release {address : EndpointAddress} (htarget : address.IsTarget) (design : Design)
    (settings : CalibrationSettings) (controlSfp : Bool) :
    Follows (fun roundTrip => do
      if controlSfp then
        (design.calibrationWith settings).release address
      pure roundTrip) := by
  intro roundTrip
  cases controlSfp with
  | false => exact ⟨[], roundTrip, rfl⟩
  | true =>
    refine ⟨[[(design.master.transmitters.controlPath, address.value)]], roundTrip, ?_⟩
    show ((design.calibrationWith settings).release address >>= fun _ => done roundTrip) = _
    rw [release_eq htarget, sendAll, Procedure.bind_assoc]
    rfl

/-- The measurement of an application is followed by programming the delays, and by a release if the
policy says so. -/
theorem follows_programming {address : EndpointAddress} (htarget : address.IsTarget)
    (design : Design) (settings : CalibrationSettings) (delay : DelayParameters)
    (release : Bool) :
    Follows (fun roundTrip => do
      send (design.master.delayLine.pairs address delay)
      design.finish settings address release (some roundTrip)) :=
  fun roundTrip => ⟨design.programming address delay release, some roundTrip,
    design.send_finish_eq settings htarget delay release (some roundTrip)⟩

/-- Whether a design can put a link up: its address names an endpoint, and the design has its
channel. -/
structure Accepts (design : Design) (link : Link) : Prop where
  target : link.address.IsTarget
  channel : design.HasChannel link.channel?

/-- An application that measures refuses a link that the design does not accept; any other link it
measures, and does the rest. -/
theorem apply_of_measured (design : Design) (settings : CalibrationSettings)
    (address : EndpointAddress) (delay : DelayParameters) (controlSfp : Bool)
    (channel? : Option MuxChannel) :
    let link : Link := ⟨address, controlSfp, channel?⟩
    (¬ design.Accepts link ∧ ∃ e : Error, e.isRaised ∧
      (design.calibrationWith settings).apply address delay true controlSfp channel? = fail e) ∨
    (design.Accepts link ∧ ∃ rest, Follows rest ∧
      (design.calibrationWith settings).apply address delay true controlSfp channel? =
        link.measure design settings >>= rest) := by
  intro link
  by_cases haccepts : design.Accepts link
  · refine Or.inr ⟨haccepts, _, follows_programming haccepts.target design settings delay
      (releases settings true controlSfp channel?), ?_⟩
    rw [apply_eq settings haccepts.target haccepts.channel]
    exact applySteps_measured
  · refine Or.inl ⟨haccepts, ?_⟩
    rcases design.apply_raises_or settings address delay true controlSfp channel? with
      hrefused | ⟨htarget, hchannel, -⟩
    · exact hrefused
    · exact absurd ⟨htarget, hchannel⟩ haccepts

/-- A measurement refuses a link that the design does not accept. -/
theorem measure_of_not_accepts (settings : CalibrationSettings) (h : ¬ design.Accepts link) :
    ∃ e : Error, e.isRaised ∧
      (design.calibrationWith settings).measure link.address link.controlSfp link.channel? =
        fail e := by
  cases hcheck : link.address.checkTarget with
  | error e => exact ⟨e, raises_checkTarget _ e hcheck, measure_refused hcheck⟩
  | ok u =>
    have htarget := EndpointAddress.checkTarget_eq_ok_iff.mp hcheck
    cases hchannel : (design.calibrationWith settings).checkChannel link.channel? with
    | error e =>
      exact ⟨e, raises_checkChannel _ link.channel? e hchannel, measure_noChannel htarget hchannel⟩
    | ok u => exact absurd ⟨htarget, checkChannel_eq_ok_iff.mp hchannel⟩ h

/-- A call that measures a link refuses one that the design does not accept; any other link it
measures, and does the rest. -/
theorem Call.perform_of_measured (design : Design) (settings : CalibrationSettings)
    (h : call.measured = some link) :
    (¬ design.Accepts link ∧ ∃ e : Error, e.isRaised ∧ call.perform design settings = fail e) ∨
    (design.Accepts link ∧ ∃ rest, Follows rest ∧
      call.perform design settings = link.measure design settings >>= rest) := by
  cases call with
  | measure address controlSfp channel? =>
    cases h
    by_cases haccepts : design.Accepts ⟨address, controlSfp, channel?⟩
    · exact Or.inr ⟨haccepts, _,
        follows_release haccepts.target design settings controlSfp, measure_eq haccepts.target⟩
    · exact Or.inl ⟨haccepts, measure_of_not_accepts settings haccepts⟩
  | measureDirect address controlSfp =>
    cases h
    cases hcheck : address.checkTarget with
    | error e =>
      refine Or.inl ⟨fun haccepts => ?_, e, raises_checkTarget _ e hcheck,
        master_measure_refused hcheck⟩
      have htarget := EndpointAddress.checkTarget_eq_ok_iff.mpr haccepts.target
      rw [hcheck] at htarget
      cases htarget
    | ok u =>
      have htarget := EndpointAddress.checkTarget_eq_ok_iff.mp hcheck
      exact Or.inr ⟨⟨htarget, trivial⟩, _,
        follows_release htarget design settings controlSfp, master_measure_eq htarget settings⟩
  | apply address delay measureRtt controlSfp channel? =>
    cases measureRtt with
    | false => cases h
    | true =>
      cases h
      exact design.apply_of_measured settings address delay controlSfp channel?
  | applyStored endpoint measureRtt =>
    cases measureRtt with
    | false => cases h
    | true =>
      cases h
      exact design.apply_of_measured settings endpoint.address endpoint.delay true
        endpoint.muxChannel
  | _ => cases h

/-- A call that does not measure sends what it knows beforehand, or it is one of three others. -/
theorem Call.cases_of_unmeasured (design : Design) (settings : CalibrationSettings)
    (h : call.measured = none) :
    (call.perform design settings).OnlySends ∨ (∃ count, call = .scan count) ∨
      (∃ channel waitForLock, call = .switchMux channel waitForLock) ∨ call = .configure := by
  cases call with
  | measure address controlSfp channel? => cases h
  | measureDirect address controlSfp => cases h
  | apply address delay measureRtt controlSfp channel? =>
    cases measureRtt with
    | true => cases h
    | false => exact Or.inl (design.onlySends_apply settings address delay controlSfp channel?)
  | applyStored endpoint measureRtt =>
    cases measureRtt with
    | true => cases h
    | false =>
      exact Or.inl (design.onlySends_apply settings endpoint.address endpoint.delay true
        endpoint.muxChannel)
  | scan count => exact Or.inr (Or.inl ⟨count, rfl⟩)
  | switchMux channel waitForLock => exact Or.inr (Or.inr (Or.inl ⟨channel, waitForLock, rfl⟩))
  | configure => exact Or.inr (Or.inr (Or.inr rfl))

/-- A compositional property holds of every call, if it holds of the handling of failed links. -/
theorem Call.compositional {P : (α : Type) → Procedure α → Prop} (h : Compositional P)
    (design : Design) (settings : CalibrationSettings) (call : Call)
    (hrelease : ∀ link, call.measured = some link → link.address.IsTarget →
      link.controlSfp = true → ∀ e : Error, e.isLinkFailure → P RoundTrip
        (((design.calibrationWith settings).release link.address).attempt >>= fun _ => fail e)) :
    P call.Result (call.perform design settings) := by
  cases hmeasured : call.measured with
  | some link =>
    rcases call.perform_of_measured design settings hmeasured with
      ⟨-, e, he, hrefused⟩ | ⟨haccepts, rest, hrest, hperform⟩
    · rw [hrefused]
      exact h.fail e he
    · rw [hperform]
      exact h.bind (h.isolateAndMeasure haccepts.target
        (hrelease link hmeasured haccepts.target)) (hrest.compositional h)
  | none =>
    rcases call.cases_of_unmeasured design settings hmeasured with
      hsends | ⟨count, rfl⟩ | ⟨channel, waitForLock, rfl⟩ | rfl
    · exact h.onlySends hsends
    · exact h.scanner design fun mux => h.scan _ mux count
    · exact h.scanner design fun mux => h.switchTo _ mux channel waitForLock
    · exact h.configure design

end Design

end OpticalTiming
