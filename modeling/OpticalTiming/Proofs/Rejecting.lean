import OpticalTiming.Proofs.Agreeing
import OpticalTiming.Proofs.Refusing

/-!
# Arguments are vetted before anything is done

Addresses and channels are checked in several places on the way through a call. `Procedure.Vets`
says that nevertheless the arguments decide at the outset: a call ends with a rejection just if its
arguments are out of range, and then it has not touched the bench.

`rejectsUpFront` says so of every call with such arguments. Whatever passes the first check ends
only with errors of another kind (`neverRejects_isolateAndMeasure`, `neverRejects_scanFrom`).
-/

namespace OpticalTiming

open Procedure

/-! ### Verdicts -/

/-- Whether an error says that an argument is out of range. -/
def Error.isRejection : Error → Bool
  | invalidAddress _ | invalidChannel _ _ => true
  | e => e = noMux

/-- What is wrong with an address that has to name an endpoint. -/
def EndpointAddress.targetVerdict? (address : EndpointAddress) : Option Error :=
  if address.value = 0 ∨ 0xFFFF < address.value then some (.invalidAddress address.value) else none

/-- What is wrong with an address that has to fit the address field. -/
def EndpointAddress.fieldVerdict? (address : EndpointAddress) : Option Error :=
  if 0xFFFF < address.value then some (.invalidAddress address.value) else none

/-- What is wrong with a channel of a multiplexer. -/
def FanoutMux.channelVerdict? (mux : FanoutMux) (channel : MuxChannel) : Option Error :=
  if mux.count ≤ channel.index then some (.invalidChannel channel.index mux.count) else none

/-- What is wrong with scanning so many channels of a multiplexer. -/
def FanoutMux.countVerdict? (mux : FanoutMux) (count : UInt32) : Option Error :=
  if mux.count < count then some (.invalidChannel (count - 1) mux.count) else none

/-- What is wrong with a channel of a design. -/
def Design.channelVerdict? (design : Design) : Option MuxChannel → Option Error
  | none => none
  | some channel =>
    match design.mux with
    | none => some noMux
    | some mux => mux.channelVerdict? channel

/-- What is wrong with an endpoint that is reached directly or through a channel. The address is
looked at first. -/
def Design.verdict? (design : Design) (address : EndpointAddress) (channel? : Option MuxChannel) :
    Option Error :=
  address.targetVerdict? <|> design.channelVerdict? channel?

/-- What is wrong with a channel for commands. -/
def CommandChannels.verdict? (channels : CommandChannels) (channel : UInt32) : Option Error :=
  if channels.count ≤ channel then some (.invalidChannel channel channels.count) else none

namespace Procedure

variable {α : Type}

/-- Whether a procedure rejects by this verdict and by nothing else, and without touching the
bench. -/
structure Vets (p : Procedure α) (verdict? : Option Error) : Prop where
  rejected_iff : ∀ bench e, e.isRejection → ((p.run bench).1 = .error e ↔ verdict? = some e)
  untouched : ∀ bench e, e.isRejection → (p.run bench).1 = .error e → (p.run bench).2 = bench

/-- Whether a procedure never rejects, whatever the bench. -/
abbrev NeverRejects (p : Procedure α) : Prop :=
  p.Keeps (fun _ => True) fun e => e.isRejection = false

/-- A procedure that fails by its verdict if it has one, and else never rejects, vets by it. -/
theorem vets_of_verdict {p : Procedure α} {verdict? : Option Error}
    (hsome : ∀ e, verdict? = some e → p = fail e) (hnone : verdict? = none → p.NeverRejects) :
    p.Vets verdict? := by
  cases hverdict : verdict? with
  | none =>
    have hother : ∀ bench e, e.isRejection → (p.run bench).1 ≠ .error e := by
      intro bench e he hrun
      have hfalse : e.isRejection = false := (hnone hverdict bench trivial).2 e hrun
      rw [he] at hfalse
      cases hfalse
    refine ⟨fun bench e he => ?_, fun bench e he hrun => absurd hrun (hother bench e he)⟩
    exact iff_of_false (hother bench e he) (by rintro ⟨⟩)
  | some e =>
    rw [hsome e hverdict]
    refine ⟨fun bench e' _ => ?_, fun bench _ _ _ => rfl⟩
    rw [run_fail, Except.error.injEq, Option.some.injEq]

/-- The error of a check. -/
def refusal? : Except Error Unit → Option Error
  | .ok () => none
  | .error e => some e

/-- A procedure that begins with a check and never rejects behind it vets by this check. -/
theorem vets_of_check {p : Procedure α} {check : Except Error Unit}
    (herror : ∀ e, check = .error e → p = fail e) (hok : check = .ok () → p.NeverRejects) :
    p.Vets (refusal? check) := by
  refine vets_of_verdict (fun e h => herror e ?_) fun h => hok ?_
  · cases check <;> cases h
    rfl
  · cases check <;> cases h
    rfl

theorem refusal?_bind (check more : Except Error Unit) :
    refusal? (check >>= fun _ => more) = (refusal? check <|> refusal? more) := by
  cases check <;> rfl

end Procedure

/-! ### The checks give the verdicts -/

theorem refusal?_ite {valid wrong : Prop} [Decidable valid] [Decidable wrong] (e : Error)
    (h : valid ↔ ¬ wrong) :
    refusal? (if valid then .ok () else .error e) = if wrong then some e else none := by
  by_cases hwrong : wrong
  · rw [if_pos hwrong, if_neg fun hvalid => h.mp hvalid hwrong]
    rfl
  · rw [if_neg hwrong, if_pos (h.mpr hwrong)]
    rfl

theorem refusal?_checkTarget (address : EndpointAddress) :
    refusal? address.checkTarget = address.targetVerdict? := by
  refine refusal?_ite _ ?_
  rw [not_or, UInt32.not_lt]
  exact Iff.rfl

theorem refusal?_checkField (address : EndpointAddress) :
    refusal? address.checkField = address.fieldVerdict? :=
  refusal?_ite _ UInt32.not_lt.symm

theorem refusal?_checkChannel_mux (mux : FanoutMux) (channel : MuxChannel) :
    refusal? (mux.checkChannel channel) = mux.channelVerdict? channel :=
  refusal?_ite _ UInt32.not_le.symm

theorem refusal?_checkChannel (design : Design) (settings : CalibrationSettings)
    (channel? : Option MuxChannel) :
    refusal? ((design.calibrationWith settings).checkChannel channel?) =
      design.channelVerdict? channel? := by
  cases channel? with
  | none => rfl
  | some channel =>
    unfold Calibration.checkChannel Calibration.muxFor Design.channelVerdict?
      Design.calibrationWith
    cases design.mux with
    | none => rfl
    | some mux =>
      refine Eq.trans ?_ (refusal?_checkChannel_mux mux channel)
      dsimp only
      cases mux.checkChannel channel <;> rfl

/-- Nothing is wrong with a link that the design accepts, and only with such a link. -/
theorem Design.verdict?_isNone_iff (design : Design) (link : Link) :
    (design.verdict? link.address link.channel?).isNone ↔ design.Accepts link := by
  have hnone : ∀ check, (refusal? check).isNone ↔ check = .ok () := by
    rintro (e | u) <;> simp [refusal?]
  rw [Design.verdict?, ← refusal?_checkTarget, ← refusal?_checkChannel design {}, ← refusal?_bind, hnone]
  constructor
  · intro h
    cases hcheck : link.address.checkTarget with
    | error e =>
      rw [hcheck] at h
      cases h
    | ok u =>
      rw [hcheck] at h
      exact ⟨EndpointAddress.checkTarget_eq_ok_iff.mp hcheck, Design.checkChannel_eq_ok_iff.mp h⟩
  · rintro ⟨htarget, hchannel⟩
    rw [EndpointAddress.checkTarget_eq_ok_iff.mpr htarget]
    exact Design.checkChannel_eq_ok_iff.mpr hchannel

/-! ### Errors of other kinds -/

theorem Error.isRejection_eq_false_of_isLinkFailure {e : Error} (h : e.isLinkFailure) :
    e.isRejection = false := by
  cases e <;> first | rfl | cases h

theorem neverRejects_read (path : String) : (read path).NeverRejects :=
  fun _ _ => ⟨trivial, by rintro e ⟨⟩⟩

theorem neverRejects_write (path : String) (value : UInt32) : (write path value).NeverRejects :=
  fun _ _ => ⟨trivial, by rintro e ⟨⟩⟩

theorem neverRejects_dispatch : dispatch.NeverRejects := by
  intro bench _
  refine ⟨trivial, fun e he => ?_⟩
  rw [run_dispatch] at he
  rcases bench.dispatch_cases with ⟨message, -, h⟩ | ⟨-, h⟩ <;> rw [h] at he <;> cases he
  rfl

theorem neverRejects_value (handle : Handle) : (value handle).NeverRejects := by
  intro bench _
  refine ⟨trivial, fun e he => ?_⟩
  rw [run_value] at he
  obtain rfl := Bus.eq_notDispatched_of_value he
  rfl

theorem neverRejects_wait (ms : Nat) : (wait ms).NeverRejects := by
  intro bench _
  refine ⟨trivial, fun e he => ?_⟩
  rw [run_wait] at he
  obtain rfl := Bench.eq_cancelled_of_wait he
  rfl

theorem sequential_neverRejects : Sequential fun _ p => p.NeverRejects :=
  sequential_keeps _ _

/-- No exchange and no wait rejects anything, whatever the bench. -/
theorem stable_neverRejects :
    Stable (fun _ => True) fun e => e.isRejection = false where
  send _ := sequential_neverRejects.send (fun pair _ => neverRejects_write pair.1 pair.2)
    neverRejects_dispatch
  fetch _ _ := sequential_neverRejects.fetch (neverRejects_read _) neverRejects_dispatch
    neverRejects_value
  snapshot block _ := sequential_neverRejects.snapshot
    (fun leaf _ => neverRejects_read (block.path leaf)) neverRejects_dispatch neverRejects_value
  wait := neverRejects_wait

theorem neverRejects_send (pairs : List (String × UInt32)) : (send pairs).NeverRejects :=
  stable_neverRejects.send pairs

theorem neverRejects_lockAndEcho (master : Master) (address : EndpointAddress) :
    (master.lockAndEcho address).NeverRejects :=
  stable_neverRejects.keeps_lockAndEcho
    (fun _ => Error.isRejection_eq_false_of_isLinkFailure) (fun _ => rfl) master address

/-! ### Measurements and applications -/

namespace Design

variable {design : Design} {settings : CalibrationSettings} {address : EndpointAddress}
  {controlSfp : Bool} {channel? : Option MuxChannel}

theorem neverRejects_release (design : Design) (settings : CalibrationSettings)
    (htarget : address.IsTarget) :
    ((design.calibrationWith settings).release address).NeverRejects := by
  rw [release_eq htarget]
  exact neverRejects_send _

theorem neverRejects_route (settings : CalibrationSettings) (controlSfp : Bool)
    (htarget : address.IsTarget) (hchannel : design.HasChannel channel?) :
    ((design.calibrationWith settings).route address controlSfp channel?).NeverRejects := by
  cases channel? with
  | some channel =>
    rw [route_channel htarget hchannel rfl]
    exact (neverRejects_send _).bind fun _ => neverRejects_wait _
  | none =>
    cases controlSfp with
    | false => exact keeps_done ()
    | true =>
      rw [route_direct htarget]
      exact neverRejects_send _

/-- A measurement of an endpoint that the design can reach never rejects. -/
theorem neverRejects_isolateAndMeasure (settings : CalibrationSettings) (controlSfp : Bool)
    (htarget : address.IsTarget) (hchannel : design.HasChannel channel?) :
    ((design.calibrationWith settings).isolateAndMeasure address controlSfp
      channel?).NeverRejects := by
  rw [isolateAndMeasure_eq htarget]
  refine (neverRejects_route settings controlSfp htarget hchannel).bind fun _ =>
    (neverRejects_lockAndEcho design.master address).handle (fun _ => keeps_done _) ?_
  intro e he
  have hrelease : (design.releaseAfter settings address controlSfp e).NeverRejects := by
    unfold releaseAfter
    split
    · exact neverRejects_release design settings htarget
    · exact keeps_done ()
  exact hrelease.attempt.bind fun _ => keeps_fail he

theorem neverRejects_measured (settings : CalibrationSettings) (controlSfp : Bool)
    (htarget : address.IsTarget) (hchannel : design.HasChannel channel?) :
    NeverRejects (do
      let roundTrip ←
        (design.calibrationWith settings).isolateAndMeasure address controlSfp channel?
      if controlSfp then
        (design.calibrationWith settings).release address
      pure roundTrip) := by
  refine (neverRejects_isolateAndMeasure settings controlSfp htarget hchannel).bind fun _ => ?_
  cases controlSfp with
  | false => exact keeps_done _
  | true => exact (neverRejects_release design settings htarget).bind fun _ => keeps_done _

theorem neverRejects_applySteps (settings : CalibrationSettings) (delay : DelayParameters)
    (measureRtt controlSfp : Bool) (htarget : address.IsTarget)
    (hchannel : design.HasChannel channel?) :
    (design.applySteps settings address delay measureRtt controlSfp channel?).NeverRejects := by
  have hmeasure : ((design.calibrationWith settings).measureIf measureRtt address controlSfp
      channel?).NeverRejects := by
    cases measureRtt with
    | false => exact keeps_done none
    | true =>
      exact (neverRejects_isolateAndMeasure settings controlSfp htarget hchannel).bind
        fun _ => keeps_done _
  refine hmeasure.bind fun roundTrip? => (neverRejects_send _).bind fun _ => ?_
  unfold finish
  split
  · exact (neverRejects_release design settings htarget).bind fun _ => keeps_done _
  · exact keeps_done _

/-- A call that refuses a bad address and then a missing channel, and never rejects what is left,
vets the endpoint. -/
theorem vets_of_endpoint {α : Type} {p : Procedure α}
    (haddress : ∀ e, address.checkTarget = .error e → p = fail e)
    (hchannel : address.IsTarget →
      ∀ e, (design.calibrationWith settings).checkChannel channel? = .error e → p = fail e)
    (hvalid : address.IsTarget → design.HasChannel channel? → p.NeverRejects) :
    p.Vets (design.verdict? address channel?) := by
  rw [verdict?, ← refusal?_checkTarget, ← refusal?_checkChannel design settings, ← refusal?_bind]
  cases hcheck : address.checkTarget with
  | error e => exact vets_of_check (by rintro e ⟨⟩; exact haddress e hcheck) (by rintro ⟨⟩)
  | ok u =>
    have htarget := EndpointAddress.checkTarget_eq_ok_iff.mp hcheck
    exact vets_of_check (hchannel htarget) fun h => hvalid htarget (checkChannel_eq_ok_iff.mp h)

end Design

/-! ### Selecting and scanning channels -/

section

variable {master : Master} {mux : FanoutMux}

theorem neverRejects_enableUpstream (master : Master) : master.enableUpstream.NeverRejects := by
  unfold Master.enableUpstream
  split
  · exact stable_neverRejects.keeps_enable _
  · exact keeps_fail (by decide)

theorem neverRejects_switchTo (master : Master) {channel : MuxChannel}
    (h : mux.checkChannel channel = .ok ()) (waitForLock : Bool) :
    ((MuxScanner.ofMaster master mux).switchTo channel waitForLock).NeverRejects := by
  have hselect : (mux.select channel).NeverRejects := by
    rw [FanoutMux.select_eq h]
    exact neverRejects_send _
  refine hselect.bind fun _ => ?_
  cases waitForLock with
  | false => exact keeps_done ()
  | true =>
    refine (neverRejects_enableUpstream master).bind fun locked => ?_
    cases locked with
    | true => exact keeps_done ()
    | false => exact keeps_fail rfl

/-- A scan that ends at the last channel of the multiplexer, or before it, never rejects. -/
theorem neverRejects_scanFrom (master : Master) {first : UInt32} {count : Nat}
    (h : first.toNat + count ≤ mux.count.toNat) :
    ((MuxScanner.ofMaster master mux).scanFrom first count).NeverRejects := by
  induction count generalizing first with
  | zero => exact keeps_done _
  | succ count ih =>
    have hfirst : first < mux.count := UInt32.lt_iff_toNat_lt.mpr (by omega)
    have hnext : (first + 1).toNat = first.toNat + 1 := by
      have hsize := mux.count.toNat_lt
      have hfits : first.toNat + 1 < 2 ^ 32 := by omega
      exact (UInt32.toNat_add first 1).trans (Nat.mod_eq_of_lt hfits)
    have hfits : (first + 1).toNat + count ≤ mux.count.toNat := by omega
    have hrest := ih hfits
    have hswitch : ((MuxScanner.ofMaster master mux).switchTo ⟨first⟩ true).NeverRejects :=
      neverRejects_switchTo master (Design.checkChannel_mux_iff.mpr hfirst) true
    refine hswitch.handle (fun _ => hrest.bind fun _ => keeps_done _) fun e he => ?_
    dsimp only
    split
    · exact hrest.bind fun _ => keeps_done _
    · exact keeps_fail he

/-- Selecting a channel vets it. -/
theorem vets_switchTo (master : Master) (mux : FanoutMux) (channel : MuxChannel)
    (waitForLock : Bool) :
    ((MuxScanner.ofMaster master mux).switchTo channel waitForLock).Vets
      (mux.channelVerdict? channel) := by
  rw [← refusal?_checkChannel_mux]
  refine vets_of_check (fun e h => ?_) fun h => neverRejects_switchTo master h waitForLock
  have hselect : mux.select channel = fail e := by
    rw [FanoutMux.select, h]
    rfl
  show (mux.select channel >>= _) = _
  rw [hselect]
  rfl

/-- A scan vets the number of its channels. -/
theorem vets_scan (master : Master) (mux : FanoutMux) (count : UInt32) :
    ((MuxScanner.ofMaster master mux).scan count).Vets (mux.countVerdict? count) := by
  by_cases h : mux.count < count
  · have hscan : (MuxScanner.ofMaster master mux).scan count =
        fail (.invalidChannel (count - 1) mux.count) := if_pos h
    rw [FanoutMux.countVerdict?, if_pos h]
    refine vets_of_verdict ?_ (by rintro ⟨⟩)
    rintro e ⟨⟩
    exact hscan
  · have hscan : (MuxScanner.ofMaster master mux).scan count =
        (MuxScanner.ofMaster master mux).scanFrom 0 count.toNat := if_neg h
    have hcount : (0 : UInt32).toNat + count.toNat ≤ mux.count.toNat := by
      rw [UInt32.toNat_zero, Nat.zero_add]
      exact UInt32.le_iff_toNat_le.mp (UInt32.not_lt.mp h)
    rw [FanoutMux.countVerdict?, if_neg h, hscan]
    exact vets_of_verdict (by rintro e ⟨⟩) fun _ => neverRejects_scanFrom master hcount

/-- What is done with the scanner of a design is rejected for want of a multiplexer, or by its own
verdict. -/
theorem vets_scanner {α : Type} {f : MuxScanner → Procedure α} {verdict? : FanoutMux → Option Error}
    (design : Design) (h : ∀ mux, (f (.ofMaster design.master mux)).Vets (verdict? mux)) :
    (ofExcept design.scanner >>= f).Vets
      (match design.mux with
      | none => some noMux
      | some mux => verdict? mux) := by
  unfold Design.scanner
  cases design.mux with
  | some mux => exact h mux
  | none =>
    refine vets_of_verdict ?_ (by rintro ⟨⟩)
    rintro e ⟨⟩
    rfl

end

/-! ### The calls -/

/-- What is wrong with a scan by a design. -/
def Design.countVerdict? (design : Design) (count : UInt32) : Option Error :=
  match design.mux with
  | none => some noMux
  | some mux => mux.countVerdict? count

/-- Every call of a design that takes an address or a channel, and of the blocks of its master, vets
it before anything is done. -/
structure Design.RejectsUpFront (design : Design) (settings : CalibrationSettings) : Prop where
  measure : ∀ address controlSfp channel?,
    ((design.calibrationWith settings).measure address controlSfp channel?).Vets
      (design.verdict? address channel?)
  measureDirect : ∀ address controlSfp,
    (design.master.measure address controlSfp).Vets address.targetVerdict?
  apply : ∀ address delay measureRtt controlSfp channel?,
    ((design.calibrationWith settings).apply address delay measureRtt controlSfp channel?).Vets
      (design.verdict? address channel?)
  applyStored : ∀ endpoint measureRtt,
    ((design.calibrationWith settings).applyStored endpoint measureRtt).Vets
      (design.verdict? endpoint.address endpoint.muxChannel)
  switchMux : ∀ channel waitForLock,
    (design.switchMux channel waitForLock).Vets (design.channelVerdict? (some channel))
  scan : ∀ count, (Design.Call.perform design settings (.scan count)).Vets
    (design.countVerdict? count)
  /-- A scanner can have any multiplexer. -/
  switchTo : ∀ mux channel waitForLock,
    ((MuxScanner.ofMaster design.master mux).switchTo channel waitForLock).Vets
      (mux.channelVerdict? channel)
  scanOf : ∀ mux count,
    ((MuxScanner.ofMaster design.master mux).scan count).Vets (mux.countVerdict? count)
  send : ∀ command channel count,
    (design.master.commands.send command channel count).Vets
      (design.master.commands.verdict? channel)
  program : ∀ address delay,
    (design.master.delayLine.program address delay).Vets address.targetVerdict?
  /-- To switch a transmitter, an address need only fit the field. -/
  switch : ∀ address on,
    (design.master.transmitters.switch address on).Vets address.fieldVerdict?

theorem neverRejects_pulses (path : String) (code : UInt32) (count : Nat) :
    (CommandChannels.pulses path code count).NeverRejects := by
  induction count with
  | zero => exact keeps_done ()
  | succ count ih =>
    exact (neverRejects_write path code).bind fun _ => neverRejects_dispatch.bind fun _ => ih

theorem CommandChannels.vets_send (channels : CommandChannels) (command : FixedLengthCommand)
    (channel count : UInt32) :
    (channels.send command channel count).Vets (channels.verdict? channel) := by
  unfold CommandChannels.verdict? CommandChannels.send
  by_cases h : channel < channels.count
  · rw [if_pos h, if_neg (UInt32.not_le.mpr h)]
    exact vets_of_verdict (by rintro e ⟨⟩) fun _ => neverRejects_pulses _ _ _
  · rw [if_neg h, if_pos (UInt32.not_lt.mp h)]
    refine vets_of_verdict ?_ (by rintro ⟨⟩)
    rintro e ⟨⟩
    rfl

namespace Design

theorem vets_measure (design : Design) (settings : CalibrationSettings) (address : EndpointAddress)
    (controlSfp : Bool) (channel? : Option MuxChannel) :
    ((design.calibrationWith settings).measure address controlSfp channel?).Vets
      (design.verdict? address channel?) := by
  refine vets_of_endpoint (fun e => measure_refused) (fun htarget e => measure_noChannel htarget)
    fun htarget hchannel => ?_
  rw [measure_eq htarget]
  exact neverRejects_measured settings controlSfp htarget hchannel

theorem vets_master_measure (design : Design) (address : EndpointAddress) (controlSfp : Bool) :
    (design.master.measure address controlSfp).Vets address.targetVerdict? := by
  rw [← refusal?_checkTarget]
  refine vets_of_check (fun e => master_measure_refused) fun hcheck => ?_
  have htarget := EndpointAddress.checkTarget_eq_ok_iff.mp hcheck
  have hdirect : design.HasChannel none := trivial
  rw [master_measure_eq htarget {}]
  exact neverRejects_measured {} controlSfp htarget hdirect

theorem vets_apply (design : Design) (settings : CalibrationSettings) (address : EndpointAddress)
    (delay : DelayParameters) (measureRtt controlSfp : Bool) (channel? : Option MuxChannel) :
    ((design.calibrationWith settings).apply address delay measureRtt controlSfp channel?).Vets
      (design.verdict? address channel?) := by
  refine vets_of_endpoint (fun e => apply_refused) (fun htarget e => apply_noChannel htarget)
    fun htarget hchannel => ?_
  rw [apply_eq settings htarget hchannel]
  exact neverRejects_applySteps settings delay measureRtt controlSfp htarget hchannel

theorem vets_program (line : DelayLine) (address : EndpointAddress) (delay : DelayParameters) :
    (line.program address delay).Vets address.targetVerdict? := by
  rw [← refusal?_checkTarget]
  refine vets_of_check (fun e h => ?_) fun h => ?_
  · rw [DelayLine.program, h]
    rfl
  · rw [DelayLine.program_eq line (EndpointAddress.checkTarget_eq_ok_iff.mp h)]
    exact neverRejects_send _

theorem vets_switch (control : TransmitterControl) (address : EndpointAddress) (on : Bool) :
    (control.switch address on).Vets address.fieldVerdict? := by
  rw [← refusal?_checkField]
  refine vets_of_check (fun e h => ?_) fun h => ?_
  · rw [TransmitterControl.switch, h]
    rfl
  · rw [TransmitterControl.switch, h]
    exact neverRejects_write _ _

/-- Every call rejects by its arguments alone and before it has touched the bench; none rejects
anything later on. -/
theorem rejectsUpFront (design : Design) (settings : CalibrationSettings) :
    design.RejectsUpFront settings where
  measure := vets_measure design settings
  measureDirect := vets_master_measure design
  apply := vets_apply design settings
  applyStored endpoint measureRtt :=
    vets_apply design settings endpoint.address endpoint.delay measureRtt true endpoint.muxChannel
  switchMux channel waitForLock :=
    vets_scanner design fun mux => vets_switchTo design.master mux channel waitForLock
  scan count := vets_scanner design fun mux => vets_scan design.master mux count
  switchTo := vets_switchTo design.master
  scanOf := vets_scan design.master
  send := design.master.commands.vets_send
  program := vets_program design.master.delayLine
  switch := vets_switch design.master.transmitters

end Design

end OpticalTiming
