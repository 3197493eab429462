import OpticalTiming.Proofs.Polling
import OpticalTiming.Proofs.Routing

/-!
# Scans of a multiplexer

On a calm bench a scan visits the first channels one by one, whatever the device does. A `Visit` is
the selection of a channel, the restart of the receiver and the values of its status that were read
until it locked or the time was over; `run_scanFrom` says that a scan is a list of visits. From the
visits follows `scanned_of_scan`, which says of the report and of the journal alone that no channel
is lost, repeated or mistaken for another.
-/

namespace OpticalTiming

open Procedure

/-! ### Restarting the receiver -/

namespace UpstreamReceiver

/-- How often the status is read before the receiver is given up. -/
def lookLimit (receiver : UpstreamReceiver) : Nat :=
  pollLimit receiver.options.pollInterval.toNat receiver.options.timeout.toNat

/-- The time between two reads of the status. -/
def lookStep (receiver : UpstreamReceiver) : Nat :=
  waitLength receiver.options.pollInterval.toNat

/-- What a restart commits that follows `number` dispatches and reads the given values of the
status. -/
def restart (receiver : UpstreamReceiver) (number time : Nat) (values : List UInt32) :
    List Access :=
  .written (number + 1) time (receiver.enablePath, 0) ::
    .written (number + 2) time (receiver.enablePath, 1) ::
      Access.looks receiver.statusPath receiver.lookStep (number + 2) time values

theorem checkReady_eq (receiver : UpstreamReceiver) :
    receiver.checkReady = receiver.block.check "csr.stat.ep_stat" isReady := rfl

/-- Switches the receiver off and on again, in two dispatches. -/
def relaunch (receiver : UpstreamReceiver) : Procedure Unit := do
  send [(receiver.enablePath, 0)]
  send [(receiver.enablePath, 1)]

/-- The bench on which the wait for a lock begins. -/
def relaunched (receiver : UpstreamReceiver) (bench : Bench) : Bench :=
  (receiver.relaunch.run bench).2

theorem enable_eq_relaunch (receiver : UpstreamReceiver) :
    receiver.enable = (do
      receiver.relaunch
      let outcome ← receiver.awaitLock
      pure outcome.satisfied) := by
  rw [enable_eq, relaunch, bind_assoc]

/-- On a calm bench the receiver is switched off and on without a pause. -/
theorem run_relaunch_of_calm (receiver : UpstreamReceiver) {bench : Bench} (h : bench.Calm) :
    receiver.relaunch.run bench = (.ok (), receiver.relaunched bench) ∧
      (receiver.relaunched bench).Calm ∧ (receiver.relaunched bench).clock = bench.clock ∧
      (receiver.relaunched bench).bus.dispatches = bench.bus.dispatches + 2 ∧
      receiver.relaunch.commits bench =
        [.written (bench.bus.dispatches + 1) bench.clock (receiver.enablePath, 0),
          .written (bench.bus.dispatches + 2) bench.clock (receiver.enablePath, 1)] := by
  obtain ⟨off, hoff, hdispatched, hcommits⟩ :=
    run_send_of_healthy [(receiver.enablePath, 0)] h.healthy.fault
  have hcalm : off.Calm := h.of_dispatched hdispatched
  obtain ⟨on, hon, hdispatched', hcommits'⟩ :=
    run_send_of_healthy [(receiver.enablePath, 1)] hcalm.healthy.fault
  have hrun : receiver.relaunch.run bench = (.ok (), on) := (run_bind_of_ok hoff _).trans hon
  have hrelaunched : receiver.relaunched bench = on := congrArg Prod.snd hrun
  rw [hrelaunched]
  refine ⟨hrun, hcalm.of_dispatched hdispatched', ?_, ?_, ?_⟩
  · rw [hdispatched'.clock, hdispatched.clock]
  · rw [hdispatched'.dispatches, hdispatched.dispatches]
  · rw [relaunch, commits_bind_of_ok hoff, hcommits, hcommits',
      Bus.flushed_of_queue_nil h.healthy.queue, Bus.flushed_of_queue_nil hcalm.healthy.queue,
      hdispatched.dispatches, hdispatched.clock]
    rfl

/-- On a calm bench a restart is followed by a poll of the status. -/
theorem run_enable_polled (receiver : UpstreamReceiver)
    (hinterval : 0 < receiver.options.pollInterval.toNat) {bench : Bench} (h : bench.Calm) :
    ∃ values outcome after,
      receiver.awaitLock.run (receiver.relaunched bench) = (.ok outcome, after) ∧
      Polled receiver.statusPath isReady receiver.options.pollInterval.toNat receiver.lookLimit
        (receiver.relaunched bench) after
        (receiver.awaitLock.commits (receiver.relaunched bench)) values outcome.satisfied ∧
      receiver.enable.run bench = (.ok outcome.satisfied, after) ∧
      receiver.enable.commits bench = receiver.restart bench.bus.dispatches bench.clock values := by
  obtain ⟨hrelaunch, hcalm, hclock, hdispatches, hcommits⟩ := receiver.run_relaunch_of_calm h
  obtain ⟨values, outcome, after, hrun, hpolled⟩ :=
    run_pollUntil_check receiver.block "csr.stat.ep_stat" isReady
      receiver.options.timeout.toNat hinterval hcalm
  rw [← checkReady_eq] at hrun hpolled
  have hwait : receiver.awaitLock.run (receiver.relaunched bench) = (.ok outcome, after) := hrun
  refine ⟨values, outcome, after, hwait, hpolled, ?_, ?_⟩
  · rw [enable_eq_relaunch, run_bind_of_ok hrelaunch, run_bind_of_ok hwait]
    rfl
  · have hlooks : receiver.awaitLock.commits (receiver.relaunched bench) = _ := hpolled.accesses_eq
    rw [enable_eq_relaunch, commits_bind_of_ok hrelaunch, commits_bind_of_ok hwait, pure_eq,
      commits_done, List.append_nil, hcommits, hlooks, hdispatches, hclock]
    rfl

/-- On a calm bench a restart ends with a lock or when its time is over. -/
theorem run_enable_of_calm (receiver : UpstreamReceiver)
    (hinterval : 0 < receiver.options.pollInterval.toNat) {bench : Bench} (h : bench.Calm) :
    ∃ values found after, receiver.enable.run bench = (.ok found, after) ∧ after.Calm ∧
      Looked isReady receiver.lookLimit values found ∧
      receiver.enable.commits bench = receiver.restart bench.bus.dispatches bench.clock values := by
  obtain ⟨values, outcome, after, -, hpolled, hrun, hcommits⟩ :=
    receiver.run_enable_polled hinterval h
  exact ⟨values, outcome.satisfied, after, hrun, hpolled.calm, hpolled.looked, hcommits⟩

end UpstreamReceiver

/-! ### Visits -/

/-- The visit of a scan to a channel. -/
structure Visit where
  channel : MuxChannel
  /-- The number of dispatches before the visit. -/
  number : Nat
  /-- The time of the selection. -/
  time : Nat
  /-- The values of the status that were read. -/
  values : List UInt32
  locked : Bool

namespace Visit

/-- What a visit commits. -/
def accesses (mux : FanoutMux) (receiver : UpstreamReceiver) (visit : Visit) : List Access :=
  .written (visit.number + 1) visit.time (mux.selectPath, visit.channel.index) ::
    receiver.restart (visit.number + 1) visit.time visit.values

/-- The entry of a visit without a lock. -/
def failure (visit : Visit) : ChannelFailure where
  channel := visit.channel
  reason := s!"Lock failure: mux channel {visit.channel.text} did not lock"

/-- What a scan reports of its visits. -/
def report (visits : List Visit) : ScanReport where
  locked := (visits.filter fun visit => visit.locked).map channel
  skipped := (visits.filter fun visit => !visit.locked).map failure

theorem report_cons_locked {visit : Visit} (h : visit.locked = true) (visits : List Visit) :
    report (visit :: visits) =
      { report visits with locked := visit.channel :: (report visits).locked } := by
  simp only [report, List.filter_cons, h, Bool.not_true, ↓reduceIte, Bool.false_eq_true,
    List.map_cons]

theorem report_cons_skipped {visit : Visit} (h : visit.locked = false) (visits : List Visit) :
    report (visit :: visits) =
      { report visits with skipped := visit.failure :: (report visits).skipped } := by
  simp only [report, List.filter_cons, h, Bool.not_false, ↓reduceIte, Bool.false_eq_true,
    List.map_cons]

end Visit

namespace MuxScanner

variable {master : Master} {receiver : UpstreamReceiver} {mux : FanoutMux} {bench : Bench}

/-- The error of a channel that did not lock, in the words of a report. -/
theorem message_lockFailure (channel : MuxChannel) :
    (Error.lockFailure s!"mux channel {channel.text}").message =
      s!"Lock failure: mux channel {channel.text} did not lock" := by
  show "Lock failure: " ++ ("mux channel " ++ channel.text) ++ " did not lock" =
    "Lock failure: mux channel " ++ channel.text ++ " did not lock"
  rw [← String.append_assoc]
  rfl

/-- On a calm bench the switch to a channel is a visit. -/
theorem run_switchTo (hupstream : master.upstream = some receiver)
    (hinterval : 0 < receiver.options.pollInterval.toNat) (h : bench.Calm) (channel : MuxChannel)
    (hchannel : channel.index < mux.count) :
    ∃ (visit : Visit) (after : Bench),
      ((ofMaster master mux).switchTo channel true).run bench =
        (if visit.locked then .ok () else
          .error (.lockFailure s!"mux channel {channel.text}"), after) ∧
      after.Calm ∧ visit.channel = channel ∧
      Looked UpstreamReceiver.isReady receiver.lookLimit visit.values visit.locked ∧
      ((ofMaster master mux).switchTo channel true).commits bench =
        visit.accesses mux receiver := by
  obtain ⟨selected, hselect, hdispatched, hcommits⟩ :=
    run_send_of_healthy [(mux.selectPath, channel.index)] h.healthy.fault
  have hcalm : selected.Calm := h.of_dispatched hdispatched
  obtain ⟨values, found, after, hrun, hafter, hlooked, hcommits'⟩ :=
    receiver.run_enable_of_calm hinterval hcalm
  have hlock : (ofMaster master mux).lock channel = receiver.enable := by
    show master.enableUpstream = _
    rw [Master.enableUpstream, hupstream]
  have hswitch : (ofMaster master mux).switchTo channel true = (do
      send [(mux.selectPath, channel.index)]
      let found ← receiver.enable
      if found then pure () else throw (.lockFailure s!"mux channel {channel.text}")) := by
    have hselectEq : (ofMaster master mux).mux.select channel =
        send [(mux.selectPath, channel.index)] := FanoutMux.select_eq (if_pos hchannel)
    unfold switchTo
    rw [hlock, hselectEq]
    refine congrArg (send [(mux.selectPath, channel.index)] >>= ·) (funext fun _ => ?_)
    refine congrArg (receiver.enable >>= ·) (funext fun found => ?_)
    cases found <;> rfl
  refine ⟨{ channel, number := bench.bus.dispatches, time := bench.clock, values, locked := found },
    after, ?_, hafter, rfl, hlooked, ?_⟩
  · rw [hswitch, run_bind_of_ok hselect, run_bind_of_ok hrun]
    cases found <;> rfl
  · have hend : (if found then pure () else
        throw (.lockFailure s!"mux channel {channel.text}") : Procedure Unit).commits after =
          [] := by
      cases found
      · exact commits_fail _ after
      · exact commits_done _ after
    rw [hswitch, commits_bind_of_ok hselect, commits_bind_of_ok hrun, hend, List.append_nil,
      hcommits, hcommits', Bus.flushed_of_queue_nil h.healthy.queue, hdispatched.dispatches,
      hdispatched.clock]
    rfl

/-- A visit with the rest of the scan after it is a scan. -/
theorem run_scanFrom_succ {first : UInt32} {count : Nat} {visit : Visit} {visits : List Visit}
    {visited after : Bench} (hchannel : visit.channel = ⟨first⟩)
    (hvisit : ((ofMaster master mux).switchTo ⟨first⟩ true).run bench =
      (if visit.locked then .ok () else
        .error (.lockFailure s!"mux channel {(⟨first⟩ : MuxChannel).text}"), visited))
    (haccesses : ((ofMaster master mux).switchTo ⟨first⟩ true).commits bench =
      visit.accesses mux receiver)
    (hrun : ((ofMaster master mux).scanFrom (first + 1) count).run visited =
      (.ok (Visit.report visits), after))
    (hcommits : ((ofMaster master mux).scanFrom (first + 1) count).commits visited =
      visits.flatMap (Visit.accesses mux receiver)) :
    ((ofMaster master mux).scanFrom first (count + 1)).run bench =
        (.ok (Visit.report (visit :: visits)), after) ∧
      ((ofMaster master mux).scanFrom first (count + 1)).commits bench =
        (visit :: visits).flatMap (Visit.accesses mux receiver) := by
  have hattempt := run_attempt ((ofMaster master mux).switchTo ⟨first⟩ true) bench
  rw [hvisit] at hattempt
  -- Both kinds of visits are followed by the rest of the scan.
  have hrest : ∀ extend : ScanReport → ScanReport,
      ((ofMaster master mux).scanFrom (first + 1) count >>= fun report =>
        done (extend report)).run visited = (.ok (extend (Visit.report visits)), after) ∧
      ((ofMaster master mux).scanFrom (first + 1) count >>= fun report =>
        done (extend report)).commits visited =
          visits.flatMap (Visit.accesses mux receiver) := by
    intro extend
    refine ⟨run_bind_of_ok hrun _, (commits_bind_of_ok hrun _).trans ?_⟩
    rw [commits_done, List.append_nil, hcommits]
  rw [scanFrom, run_bind_of_ok hattempt, commits_bind_of_ok hattempt, commits_attempt, haccesses,
    List.flatMap_cons]
  cases hlocked : visit.locked with
  | true =>
    rw [Visit.report_cons_locked hlocked, hchannel]
    obtain ⟨hreport, hadded⟩ := hrest fun report =>
      { report with locked := ⟨first⟩ :: report.locked }
    exact ⟨hreport, congrArg (visit.accesses mux receiver ++ ·) hadded⟩
  | false =>
    rw [Visit.report_cons_skipped hlocked, Visit.failure, hchannel, ← message_lockFailure]
    obtain ⟨hreport, hadded⟩ := hrest fun report =>
      { report with
        skipped :=
          { channel := ⟨first⟩
            reason :=
              (Error.lockFailure s!"mux channel {(⟨first⟩ : MuxChannel).text}").message } ::
            report.skipped }
    exact ⟨hreport, congrArg (visit.accesses mux receiver ++ ·) hadded⟩

/-- On a calm bench a scan of channels that the multiplexer has is a list of visits, one for each
channel in order. -/
theorem run_scanFrom (hupstream : master.upstream = some receiver)
    (hinterval : 0 < receiver.options.pollInterval.toNat) {first : UInt32} {count : Nat}
    (h : bench.Calm) (hcount : first.toNat + count ≤ mux.count.toNat) :
    ∃ (visits : List Visit) (after : Bench),
      ((ofMaster master mux).scanFrom first count).run bench = (.ok (Visit.report visits), after) ∧
      ((ofMaster master mux).scanFrom first count).commits bench =
        visits.flatMap (Visit.accesses mux receiver) ∧
      (∀ visit ∈ visits,
        Looked UpstreamReceiver.isReady receiver.lookLimit visit.values visit.locked) ∧
      visits.map (fun visit => visit.channel.index) =
        (List.range' first.toNat count).map UInt32.ofNat := by
  induction count generalizing first bench with
  | zero =>
    refine ⟨[], bench, rfl, commits_done _ bench, ?_, rfl⟩
    rintro visit ⟨⟩
  | succ count ih =>
    have hlt : first.toNat < mux.count.toNat := by omega
    -- The multiplexer has a channel after the first one, so its index does not wrap.
    have hnext : (first + 1).toNat = first.toNat + 1 := by
      have hbound := mux.count.toNat_lt
      rw [UInt32.toNat_add]
      show (first.toNat + 1) % 2 ^ 32 = _
      omega
    have hfits : (first + 1).toNat + count ≤ mux.count.toNat := by omega
    obtain ⟨visit, visited, hvisit, hcalm, hchannel, hlooked, haccesses⟩ :=
      run_switchTo hupstream hinterval h ⟨first⟩ (UInt32.lt_iff_toNat_lt.mpr hlt)
    obtain ⟨visits, after, hrun, hcommits, hall, hindices⟩ := ih hcalm hfits
    obtain ⟨hscan, hscanned⟩ := run_scanFrom_succ hchannel hvisit haccesses hrun hcommits
    refine ⟨visit :: visits, after, hscan, hscanned, ?_, ?_⟩
    · intro other hother
      rcases List.mem_cons.mp hother with rfl | hother
      · exact hlooked
      · exact hall other hother
    · rw [List.map_cons, hindices, hnext, hchannel, List.range'_succ, List.map_cons,
        UInt32.ofNat_toNat]

end MuxScanner

/-! ### What the journal says of a scan -/

namespace Access

theorem readsOf_looks (path : String) (step number time : Nat) (values : List UInt32) :
    readsOf path (looks path step number time values) = looks path step number time values := by
  induction values generalizing number time with
  | nil => rfl
  | cons value rest ih =>
    have hread : (fetched (number + 1) (time + step) (path, value)).IsReadOf path := ⟨rfl, rfl⟩
    rw [looks, readsOf_cons, if_pos hread, ih]

theorem map_value_looks (path : String) (step number time : Nat) (values : List UInt32) :
    (looks path step number time values).map Access.value = values := by
  induction values generalizing number time with
  | nil => rfl
  | cons value rest ih => exact congrArg (value :: ·) (ih _ _)

theorem not_isWriteTo_of_mem_looks {path other : String} {step number time : Nat}
    {values : List UInt32} {a : Access} (ha : a ∈ looks path step number time values) :
    ¬ a.IsWriteTo other := by
  induction values generalizing number time with
  | nil => cases ha
  | cons value rest ih =>
    rcases List.mem_cons.mp ha with rfl | ha
    · rintro ⟨⟨⟩, -⟩
    · exact ih ha

end Access

namespace UpstreamReceiver

theorem enablePath_ne_selectPath (receiver : UpstreamReceiver) (mux : FanoutMux) :
    receiver.enablePath ≠ mux.selectPath := by
  have hapart : RegisterBlock.Apart "csr.ctrl.ep_en" "csr.ctrl.mux" := by decide
  exact RegisterBlock.path_ne_of_apart hapart receiver.block mux.block

theorem not_isWriteTo_of_mem_restart {receiver : UpstreamReceiver} {mux : FanoutMux}
    {number time : Nat} {values : List UInt32} {a : Access}
    (ha : a ∈ receiver.restart number time values) : ¬ a.IsWriteTo mux.selectPath := by
  have hne := receiver.enablePath_ne_selectPath mux
  rcases List.mem_cons.mp ha with rfl | ha
  · exact fun hwrite => hne (Access.isWriteTo_written.mp hwrite)
  rcases List.mem_cons.mp ha with rfl | ha
  · exact fun hwrite => hne (Access.isWriteTo_written.mp hwrite)
  · exact Access.not_isWriteTo_of_mem_looks ha

theorem readsOf_restart (receiver : UpstreamReceiver) (number time : Nat) (values : List UInt32) :
    (Access.readsOf receiver.statusPath (receiver.restart number time values)).map Access.value =
      values := by
  unfold restart
  rw [Access.readsOf_cons, if_neg Access.not_isReadOf_written, Access.readsOf_cons,
    if_neg Access.not_isReadOf_written, Access.readsOf_looks, Access.map_value_looks]

end UpstreamReceiver

/-- The values of the status that were read while a channel was selected for the first time. -/
def UpstreamReceiver.statusBehind (receiver : UpstreamReceiver) (mux : FanoutMux)
    (channel : MuxChannel) (accesses : List Access) : List UInt32 :=
  (Access.readsOf receiver.statusPath
    (Access.since mux.selectPath channel.index accesses)).map Access.value

namespace Visit

variable {mux : FanoutMux} {receiver : UpstreamReceiver}

theorem selections_of_visits (visits : List Visit) :
    (Access.writesTo mux.selectPath (visits.flatMap (accesses mux receiver))).map Access.value =
      visits.map fun visit => visit.channel.index := by
  induction visits with
  | nil => rfl
  | cons visit rest ih =>
    have hselect : (Access.written (visit.number + 1) visit.time
        (mux.selectPath, visit.channel.index)).IsWriteTo mux.selectPath :=
      Access.isWriteTo_written.mpr rfl
    rw [List.flatMap_cons, Access.writesTo_append, List.map_append, ih, accesses,
      Access.writesTo_cons, if_pos hselect,
      Access.writesTo_eq_nil fun a ha => UpstreamReceiver.not_isWriteTo_of_mem_restart ha]
    rfl

/-- The values behind a channel are those of its visit. -/
theorem statusBehind_visits {before after : List Visit} {visit : Visit}
    (hbefore : ∀ other ∈ before, other.channel.index ≠ visit.channel.index) :
    receiver.statusBehind mux visit.channel
      ((before ++ visit :: after).flatMap (accesses mux receiver)) = visit.values := by
  have hsplit : (before ++ visit :: after).flatMap (accesses mux receiver) =
      before.flatMap (accesses mux receiver) ++
        .written (visit.number + 1) visit.time (mux.selectPath, visit.channel.index) ::
          (receiver.restart (visit.number + 1) visit.time visit.values ++
            after.flatMap (accesses mux receiver)) := by
    rw [List.flatMap_append, List.flatMap_cons]
    rfl
  unfold UpstreamReceiver.statusBehind
  rw [hsplit, Access.since_eq, UpstreamReceiver.readsOf_restart]
  · -- No earlier visit selects the channel.
    rintro a ha ⟨hwrite, hvalue⟩
    obtain ⟨other, hother, haccess⟩ := List.mem_flatMap.mp ha
    rcases List.mem_cons.mp haccess with rfl | hrestart
    · exact hbefore other hother hvalue
    · exact UpstreamReceiver.not_isWriteTo_of_mem_restart hrestart hwrite
  · exact ⟨Access.isWriteTo_written.mpr rfl, rfl⟩
  · intro a ha
    exact UpstreamReceiver.not_isWriteTo_of_mem_restart ha
  · -- The next visit, if there is one, begins with a selection.
    intro a ha
    cases after with
    | nil => cases ha
    | cons other after =>
      cases ha
      exact Access.isWriteTo_written.mpr rfl

end Visit

/-! ### The report of a scan -/

/-- What a scan of the first `count` channels reports, and what the journal says of it. -/
structure Scanned (mux : FanoutMux) (receiver : UpstreamReceiver) (count : UInt32)
    (report : ScanReport) (accesses : List Access) : Prop where
  /-- The channels are selected one after the other. -/
  selections : (Access.writesTo mux.selectPath accesses).map Access.value =
    (List.range count.toNat).map UInt32.ofNat
  locked_ascending : report.locked.Pairwise fun first second => first.index < second.index
  skipped_ascending :
    report.skipped.Pairwise fun first second => first.channel.index < second.channel.index
  /-- Every channel is in one of the lists, and no other is. -/
  complete : ∀ channel : MuxChannel,
    channel ∈ report.locked ∨ channel ∈ report.skipped.map ChannelFailure.channel ↔
      channel.index < count
  disjoint : ∀ channel ∈ report.locked, channel ∉ report.skipped.map ChannelFailure.channel
  /-- A channel has locked if the last status that was read behind it is ready. -/
  locked_iff : ∀ channel : MuxChannel, channel.index < count →
    (channel ∈ report.locked ↔
      ∃ status, (receiver.statusBehind mux channel accesses).getLast? = some status ∧
        UpstreamReceiver.isReady status = true)
  /-- The status is read until it is ready or the limit is reached. -/
  looks : ∀ channel : MuxChannel, channel.index < count →
    (receiver.statusBehind mux channel accesses).length =
      match (receiver.statusBehind mux channel accesses).findIdx? UpstreamReceiver.isReady with
      | some index => index + 1
      | none => receiver.lookLimit
  reasons : ∀ failure ∈ report.skipped,
    failure.reason = s!"Lock failure: mux channel {failure.channel.text} did not lock"

/-- The first indices, as the numbers of channels, ascend. -/
theorem pairwise_range_ofNat (count : UInt32) :
    ((List.range count.toNat).map UInt32.ofNat).Pairwise fun first second => first < second := by
  have hcount := count.toNat_lt
  rw [List.pairwise_map]
  refine List.pairwise_lt_range.imp_of_mem ?_
  intro first second hfirst hsecond hlt
  have hsecond' := List.mem_range.mp hsecond
  rw [UInt32.lt_iff_toNat_lt, UInt32.toNat_ofNat', UInt32.toNat_ofNat']
  omega

theorem mem_range_ofNat_iff {count index : UInt32} :
    index ∈ (List.range count.toNat).map UInt32.ofNat ↔ index < count := by
  rw [List.mem_map, UInt32.lt_iff_toNat_lt]
  constructor
  · rintro ⟨i, hi, rfl⟩
    have hcount := count.toNat_lt
    have hi' := List.mem_range.mp hi
    rw [UInt32.toNat_ofNat']
    omega
  · intro hlt
    exact ⟨index.toNat, List.mem_range.mpr hlt, UInt32.ofNat_toNat⟩

namespace Visit

variable {mux : FanoutMux} {receiver : UpstreamReceiver} {count : UInt32} {visits : List Visit}

theorem mem_locked_iff {channel : MuxChannel} :
    channel ∈ (report visits).locked ↔
      ∃ visit ∈ visits, visit.locked = true ∧ visit.channel = channel := by
  simp only [report, List.mem_map, List.mem_filter, and_assoc]

theorem mem_skipped_iff {channel : MuxChannel} :
    channel ∈ (report visits).skipped.map ChannelFailure.channel ↔
      ∃ visit ∈ visits, visit.locked = false ∧ visit.channel = channel := by
  simp only [report, List.map_map, List.mem_map, List.mem_filter, Bool.not_eq_true', and_assoc,
    Function.comp_apply, failure]

theorem ascending_of_indices (hindices : visits.map (fun visit => visit.channel.index) =
      (List.range count.toNat).map UInt32.ofNat) :
    visits.Pairwise fun first second => first.channel.index < second.channel.index := by
  rw [← List.pairwise_map, hindices]
  exact pairwise_range_ofNat count

theorem exists_visit_iff (hindices : visits.map (fun visit => visit.channel.index) =
      (List.range count.toNat).map UInt32.ofNat) (channel : MuxChannel) :
    (∃ visit ∈ visits, visit.channel = channel) ↔ channel.index < count := by
  rw [← mem_range_ofNat_iff, ← hindices, List.mem_map]
  constructor
  · rintro ⟨visit, hvisit, rfl⟩
    exact ⟨visit, hvisit, rfl⟩
  · rintro ⟨visit, hvisit, hindex⟩
    exact ⟨visit, hvisit, congrArg MuxChannel.mk hindex⟩

/-- A channel tells its visit. -/
theorem eq_of_channel_eq
    (hascending : visits.Pairwise fun first second => first.channel.index < second.channel.index)
    {first second : Visit} (hfirst : first ∈ visits) (hsecond : second ∈ visits)
    (h : first.channel = second.channel) : first = second := by
  induction hascending with
  | nil => cases hfirst
  | cons hhead _ ih =>
    rcases List.mem_cons.mp hfirst with rfl | hfirst'
    · rcases List.mem_cons.mp hsecond with rfl | hsecond'
      · rfl
      · have hlt := hhead second hsecond'
        rw [h] at hlt
        exact absurd hlt (UInt32.lt_irrefl _)
    · rcases List.mem_cons.mp hsecond with rfl | hsecond'
      · have hlt := hhead first hfirst'
        rw [h] at hlt
        exact absurd hlt (UInt32.lt_irrefl _)
      · exact ih hfirst' hsecond'

/-- The visit to a channel is the only one, so what is read behind the channel belongs to it. -/
theorem statusBehind_of_mem
    (hascending : visits.Pairwise fun first second => first.channel.index < second.channel.index)
    {visit : Visit} (hvisit : visit ∈ visits) :
    receiver.statusBehind mux visit.channel (visits.flatMap (accesses mux receiver)) =
      visit.values := by
  obtain ⟨before, after, rfl⟩ := List.append_of_mem hvisit
  obtain ⟨-, -, hbefore⟩ := List.pairwise_append.mp hascending
  refine statusBehind_visits fun other hother => ?_
  exact UInt32.ne_of_lt (hbefore other hother visit List.mem_cons_self)

/-- Visits to the first channels in order make a scan. -/
theorem scanned (hindices : visits.map (fun visit => visit.channel.index) =
      (List.range count.toNat).map UInt32.ofNat)
    (hlooked : ∀ visit ∈ visits,
      Looked UpstreamReceiver.isReady receiver.lookLimit visit.values visit.locked) :
    Scanned mux receiver count (report visits) (visits.flatMap (accesses mux receiver)) := by
  have hascending := ascending_of_indices hindices
  have hvisited := exists_visit_iff hindices
  refine ⟨selections_of_visits visits |>.trans hindices, ?_, ?_, ?_, ?_, ?_, ?_, ?_⟩
  · exact List.pairwise_map.mpr (hascending.filter _)
  · exact List.pairwise_map.mpr (hascending.filter _)
  · intro channel
    rw [mem_locked_iff, mem_skipped_iff, ← hvisited]
    constructor
    · rintro (⟨visit, hvisit, -, hchannel⟩ | ⟨visit, hvisit, -, hchannel⟩)
      · exact ⟨visit, hvisit, hchannel⟩
      · exact ⟨visit, hvisit, hchannel⟩
    · rintro ⟨visit, hvisit, hchannel⟩
      cases hlocked : visit.locked with
      | true => exact Or.inl ⟨visit, hvisit, hlocked, hchannel⟩
      | false => exact Or.inr ⟨visit, hvisit, hlocked, hchannel⟩
  · intro channel hlocked hskipped
    obtain ⟨visit, hvisit, hyes, rfl⟩ := mem_locked_iff.mp hlocked
    obtain ⟨other, hother, hno, hchannel⟩ := mem_skipped_iff.mp hskipped
    rw [eq_of_channel_eq hascending hother hvisit hchannel, hyes] at hno
    cases hno
  · intro channel hindex
    obtain ⟨visit, hvisit, rfl⟩ := (hvisited channel).mpr hindex
    rw [mem_locked_iff, statusBehind_of_mem hascending hvisit, ← (hlooked visit hvisit).found_iff]
    constructor
    · rintro ⟨other, hother, hyes, hchannel⟩
      rw [← eq_of_channel_eq hascending hother hvisit hchannel, hyes]
    · intro hyes
      exact ⟨visit, hvisit, hyes, rfl⟩
  · intro channel hindex
    obtain ⟨visit, hvisit, rfl⟩ := (hvisited channel).mpr hindex
    rw [statusBehind_of_mem hascending hvisit]
    exact (hlooked visit hvisit).length_eq
  · intro entry hentry
    obtain ⟨visit, -, rfl⟩ := List.mem_map.mp hentry
    rfl

end Visit

namespace MuxScanner

variable {master : Master} {receiver : UpstreamReceiver} {mux : FanoutMux} {count : UInt32}
  {bench : Bench}

/-- A scan of channels that the multiplexer has goes through, on any calm bench, and reports each of
them; a scan of more channels is refused. -/
theorem scanned_of_scan (hupstream : master.upstream = some receiver)
    (hinterval : 0 < receiver.options.pollInterval.toNat) :
    (count ≤ mux.count → bench.Calm → ∃ report after,
      ((ofMaster master mux).scan count).run bench = (.ok report, after) ∧
      Scanned mux receiver count report (((ofMaster master mux).scan count).commits bench) ∧
      ((ofMaster master mux).lockedChannels count).run bench = (.ok report.locked, after)) ∧
    (mux.count < count →
      ((ofMaster master mux).scan count).run bench =
        (.error (.invalidChannel (count - 1) mux.count), bench)) := by
  constructor
  · intro hcount h
    have hfits : (0 : UInt32).toNat + count.toNat ≤ mux.count.toNat := by
      have hle := UInt32.le_iff_toNat_le.mp hcount
      show 0 + count.toNat ≤ mux.count.toNat
      omega
    obtain ⟨visits, after, hrun, hcommits, hlooked, hindices⟩ :=
      run_scanFrom hupstream hinterval h hfits
    have hscan : (ofMaster master mux).scan count =
        (ofMaster master mux).scanFrom 0 count.toNat :=
      if_neg (UInt32.not_lt.mpr hcount)
    have hreport : ((ofMaster master mux).scan count).run bench =
        (.ok (Visit.report visits), after) := by
      rw [hscan, hrun]
    refine ⟨Visit.report visits, after, hreport, ?_, run_bind_of_ok hreport _⟩
    rw [hscan, hcommits]
    rw [UInt32.toNat_zero, ← List.range_eq_range'] at hindices
    exact Visit.scanned hindices hlooked
  · intro hmore
    have hscan : (ofMaster master mux).scan count =
        fail (.invalidChannel (count - 1) mux.count) := if_pos hmore
    rw [hscan, run_fail]

/-- The receiver of the reference system. -/
def referenceReceiver : UpstreamReceiver where
  block := ⟨DesignConfig.standard.registers.upstream⟩
  options := {}

/-- The multiplexer of the reference system. -/
def referenceMux : FanoutMux where
  block := ⟨DesignConfig.standard.registers.mux⟩
  count := 8

/-- A scan of three channels of the reference system, and the refusal of a ninth one. -/
theorem scanned_reference :
    (∃ report after,
      ((ofMaster Design.reference.master referenceMux).scan 3).run (Design.answering 0) =
        (.ok report, after) ∧
      Scanned referenceMux referenceReceiver 3 report
        (((ofMaster Design.reference.master referenceMux).scan 3).commits (Design.answering 0)) ∧
      ((ofMaster Design.reference.master referenceMux).lockedChannels 3).run
        (Design.answering 0) = (.ok report.locked, after)) ∧
    ((ofMaster Design.reference.master referenceMux).scan 9).run (Design.answering 0) =
      (.error (.invalidChannel 8 8), Design.answering 0) := by
  have hcalm : (Design.answering 0).Calm := ⟨⟨rfl, rfl, rfl⟩, rfl, rfl, Or.inl rfl⟩
  have hinterval : 0 < referenceReceiver.options.pollInterval.toNat := by decide
  have hupstream : Design.reference.master.upstream = some referenceReceiver := rfl
  exact ⟨(scanned_of_scan hupstream hinterval).1 (by decide) hcalm,
    (scanned_of_scan hupstream hinterval).2 (by decide)⟩

/-- A receiver whose status is read once in a time beyond the longest wait. -/
def slowReceiver : UpstreamReceiver where
  block := ⟨DesignConfig.standard.registers.upstream⟩
  options := { timeout := 946080000001, pollInterval := 946080000001 }

/-- The number of looks is not the timeout over the interval, rounded up: an interval beyond the
longest wait is over before the timeout, and there is time for a second look. -/
theorem looks_beyond_longestWait :
    ¬ ∀ (master : Master) (receiver : UpstreamReceiver) (mux : FanoutMux) (count : UInt32)
      (bench : Bench), master.upstream = some receiver →
      0 < receiver.options.pollInterval.toNat → count ≤ mux.count → bench.Calm →
      ∀ channel : MuxChannel, channel.index < count →
      let status := receiver.statusBehind mux channel
        (((ofMaster master mux).scan count).commits bench)
      status.length = match status.findIdx? UpstreamReceiver.isReady with
        | some index => index + 1
        | none => max 1 ((receiver.options.timeout.toNat +
            receiver.options.pollInterval.toNat - 1) / receiver.options.pollInterval.toNat) := by
  intro h
  have hcalm : (Design.answering 0).Calm := ⟨⟨rfl, rfl, rfl⟩, rfl, rfl, Or.inl rfl⟩
  have hlooks := h { Design.reference.master with upstream := some slowReceiver } slowReceiver
    referenceMux 1
    { Design.answering 0 with bus := {} } rfl (by decide) (by decide)
    ⟨⟨rfl, rfl, rfl⟩, hcalm.token⟩ ⟨0⟩ (by decide)
  revert hlooks
  decide +kernel

end MuxScanner

end OpticalTiming
