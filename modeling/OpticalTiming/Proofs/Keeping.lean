import OpticalTiming.Proofs.Firmware

/-!
# What procedures keep

`Procedure.Keeps` says that a procedure takes benches with a property to benches with that property
and fails only with errors of a certain kind. It passes from the parts of a procedure to the whole.
All procedures of the device blocks are put together from exchanges and waits, so they keep what
these keep (`Stable`): `keeps_enable`, `keeps_measure` and `keeps_lockAndEcho`.

Two such properties are used. `stable_idle` is about any bench with an empty queue. `stable_healthy`
is about a bench on which nothing is arranged to go wrong; its exchanges always succeed, so the only
failure of its own is that a wait is cancelled.
-/

namespace OpticalTiming

open Procedure

namespace Procedure

variable {α β : Type} {I : Bench → Prop} {E : Error → Prop}

/-- Whether a procedure takes benches with `I` to benches with `I`, and fails only with errors in
`E`. -/
def Keeps (I : Bench → Prop) (E : Error → Prop) (p : Procedure α) : Prop :=
  ∀ bench, I bench → I (p.run bench).2 ∧ ∀ e, (p.run bench).1 = .error e → E e

theorem keeps_done (a : α) : (done a).Keeps I E :=
  fun _ h => ⟨h, by rintro e ⟨⟩⟩

theorem keeps_fail {e : Error} (he : E e) : (fail e : Procedure α).Keeps I E := by
  intro bench h
  refine ⟨h, ?_⟩
  rintro e' ⟨⟩
  exact he

theorem keeps_ofExcept {r : Except Error α} (hr : ∀ e, r = .error e → E e) :
    (ofExcept r).Keeps I E := by
  intro bench h
  rw [run_ofExcept]
  exact ⟨h, hr⟩

/-- The errors of a sequence are those of its parts. -/
theorem errors_bind {r : Except Error α} {f : α → Except Error β}
    (hr : ∀ e, r = .error e → E e) (hf : ∀ a e, f a = .error e → E e) :
    ∀ e, (r >>= f) = .error e → E e := by
  cases r with
  | ok a => exact hf a
  | error e =>
    rintro e' ⟨⟩
    exact hr e rfl

theorem keeps_now : now.Keeps I E :=
  fun _ h => ⟨h, by rintro e ⟨⟩⟩

theorem Keeps.bind {p : Procedure α} {f : α → Procedure β} (hp : p.Keeps I E)
    (hf : ∀ a, (f a).Keeps I E) : (p >>= f).Keeps I E := by
  intro bench h
  obtain ⟨hafter, herror⟩ := hp bench h
  rw [run_bind]
  cases hrun : p.run bench with
  | mk result after =>
    rw [hrun] at hafter herror
    cases result with
    | ok a => exact hf a after hafter
    | error e =>
      refine ⟨hafter, ?_⟩
      rintro e' ⟨⟩
      exact herror e rfl

/-- An attempt never fails, so nothing is asked of it but to keep the property. -/
theorem Keeps.attempt {p : Procedure α} {E' : Error → Prop} (hp : p.Keeps I E') :
    p.attempt.Keeps I E := by
  intro bench h
  rw [run_attempt]
  exact ⟨(hp bench h).1, by rintro e ⟨⟩⟩

/-- A handler that passes an error on has not made it worse. -/
theorem Keeps.handle {p : Procedure α} {f : Except Error α → Procedure β} (hp : p.Keeps I E)
    (hok : ∀ a, (f (.ok a)).Keeps I E) (herror : ∀ e, E e → (f (.error e)).Keeps I E) :
    (p.attempt >>= f).Keeps I E := by
  intro bench h
  obtain ⟨hafter, hfailed⟩ := hp bench h
  rw [run_bind, run_attempt]
  cases hresult : (p.run bench).1 with
  | ok a => exact hok a _ hafter
  | error e => exact herror e (hfailed e hresult) _ hafter

theorem sequential_keeps (I : Bench → Prop) (E : Error → Prop) :
    Sequential fun _ p => p.Keeps I E where
  done := keeps_done
  bind := Keeps.bind

theorem keeps_pollUntil {interval timeout : Nat} {check : Procedure Bool}
    (hwait : (wait interval).Keeps I E) (hcheck : check.Keeps I E) :
    (pollUntil interval timeout check).Keeps I E :=
  (sequential_keeps I E).pollUntil hwait keeps_now hcheck

end Procedure

/-! ### From exchanges to device procedures -/

/-- A property of benches that every exchange and every wait keeps, and errors that include those
with which these can fail. -/
structure Stable (I : Bench → Prop) (E : Error → Prop) : Prop where
  send : ∀ pairs, (Procedure.send pairs).Keeps I E
  fetch : ∀ (block : RegisterBlock) leaf, (block.fetch leaf).Keeps I E
  snapshot : ∀ (block : RegisterBlock) leaves, (block.snapshot leaves).Keeps I E
  wait : ∀ ms, (Procedure.wait ms).Keeps I E

namespace Stable

variable {I : Bench → Prop} {E : Error → Prop}

theorem keeps_enable (h : Stable I E) (receiver : UpstreamReceiver) :
    receiver.enable.Keeps I E := by
  have hcheck : receiver.checkReady.Keeps I E :=
    (h.fetch _ _).bind fun _ => keeps_done _
  rw [UpstreamReceiver.enable_eq]
  exact (h.send _).bind fun _ => (h.send _).bind fun _ =>
    (keeps_pollUntil (h.wait _) hcheck).bind fun _ => keeps_done _

/-- Reading the timestamps of an echo fails, apart from the bus, only with a protocol error. -/
theorem keeps_readRoundTrip (h : Stable I E) (hprotocol : ∀ text, E (.protocol text))
    (monitor : EchoMonitor) : monitor.readRoundTrip.Keeps I E := by
  have hget : ∀ (stamps : Snapshot) leaf e, stamps.get leaf = .error e → E e := by
    intro stamps leaf e he
    unfold Snapshot.get at he
    split at he <;> cases he
    exact hprotocol _
  have hbetween : ∀ transmit receive e, RoundTrip.between transmit receive = .error e → E e := by
    intro transmit receive e he
    unfold RoundTrip.between at he
    dsimp only at he
    split at he <;> cases he
    exact hprotocol _
  -- The snapshot is all that touches the bench; the rest is arithmetic on its values.
  refine (h.snapshot _ _).bind fun stamps => keeps_ofExcept ?_
  exact errors_bind (hget _ _) fun _ => errors_bind (hget _ _) fun _ =>
    errors_bind (hget _ _) fun _ => errors_bind (hget _ _) fun _ => hbetween _ _

theorem keeps_measure (h : Stable I E) (hlink : ∀ e, e.isLinkFailure → E e)
    (hprotocol : ∀ text, E (.protocol text)) (monitor : EchoMonitor) (options : EchoOptions) :
    (monitor.measure options).Keeps I E := by
  have hcheck : monitor.checkDone.Keeps I E := (h.fetch _ _).bind fun _ => keeps_done _
  rw [EchoMonitor.measure_eq]
  refine (h.send _).bind fun _ => (keeps_pollUntil (h.wait _) hcheck).bind fun outcome => ?_
  split
  · exact h.keeps_readRoundTrip hprotocol monitor
  · exact keeps_fail (hlink _ rfl)

theorem keeps_lockAndEcho (h : Stable I E) (hlink : ∀ e, e.isLinkFailure → E e)
    (hprotocol : ∀ text, E (.protocol text)) (master : Master) (address : EndpointAddress) :
    (master.lockAndEcho address).Keeps I E := by
  cases hupstream : master.upstream with
  | none =>
    rw [Master.lockAndEcho_of_none hupstream]
    exact h.keeps_measure hlink hprotocol _ _
  | some receiver =>
    rw [Master.lockAndEcho_of_some hupstream]
    refine (h.keeps_enable receiver).bind fun locked => ?_
    split
    · exact h.keeps_measure hlink hprotocol _ _
    · exact keeps_fail (hlink _ rfl)

end Stable

/-! ### Benches with an empty queue -/

/-- A bench on which nothing is queued. -/
def Bench.Idle (bench : Bench) : Prop := bench.bus.queue = []

/-- An exchange leaves nothing in the queue, however it ends. -/
theorem Exchange.queue_run {α : Type} {p : Procedure α} {bench : Bench}
    {Outcome : Except Error α → List Access → Prop} (h : Exchange p bench Outcome) :
    (p.run bench).2.bus.queue = [] := by
  cases h with
  | refused message after fault run refused commits =>
    rw [run]
    exact refused.queue
  | committed result accesses after fault run dispatched commits outcome =>
    rw [run]
    exact dispatched.queue

theorem stable_idle : Stable Bench.Idle fun _ => True where
  send pairs bench _ := ⟨(exchange_send pairs bench).queue_run, fun _ _ => trivial⟩
  fetch block leaf bench h := ⟨(block.exchange_fetch leaf h).queue_run, fun _ _ => trivial⟩
  snapshot block leaves bench h :=
    ⟨(block.exchange_snapshot leaves h).queue_run, fun _ _ => trivial⟩
  wait ms bench h := by
    refine ⟨?_, fun _ _ => trivial⟩
    rw [run_wait, Bench.Idle, bench.bus_wait]
    exact h

/-- Locking and measuring leave nothing in the queue. -/
theorem Master.idle_of_lockAndEcho {master : Master} {address : EndpointAddress}
    {bench after : Bench} {result : Except Error RoundTrip} (hidle : bench.bus.queue = [])
    (hrun : (master.lockAndEcho address).run bench = (result, after)) : after.bus.queue = [] := by
  have hkeeps := stable_idle.keeps_lockAndEcho (fun _ _ => trivial) (fun _ => trivial) master
    address bench hidle
  rw [hrun] at hkeeps
  exact hkeeps.1

/-! ### Benches on which nothing is arranged to go wrong -/

/-- A bench with an empty queue, no failure to come and no register left unfilled. -/
structure Bench.Healthy (bench : Bench) : Prop where
  queue : bench.bus.queue = []
  fault : bench.bus.fault = none
  unfilled : bench.bus.unfilled = []

theorem Bench.Healthy.of_dispatched {bench after : Bench} (h : bench.Dispatched after)
    (hfault : bench.bus.fault = none) (hunfilled : bench.bus.unfilled = []) : after.Healthy where
  queue := h.queue
  fault := by rw [h.fault, hfault]; rfl
  unfilled := h.unfilled.trans hunfilled

/-- Without a failure to come, an exchange commits. -/
theorem Exchange.run_of_fault_none {α : Type} {p : Procedure α} {bench : Bench}
    {Outcome : Except Error α → List Access → Prop} (h : Exchange p bench Outcome)
    (hfault : bench.bus.fault = none) :
    ∃ result accesses after, p.run bench = (result, after) ∧ bench.Dispatched after ∧
      p.commits bench = bench.bus.flushed bench.clock ++ accesses ∧ Outcome result accesses := by
  cases h with
  | refused message after fault run refused commits =>
    rw [hfault] at fault
    cases fault
  | committed result accesses after fault run dispatched commits outcome =>
    exact ⟨result, accesses, after, run, dispatched, commits, outcome⟩

/-- Writes that are sent together arrive. -/
theorem run_send_of_healthy (pairs : List (String × UInt32)) {bench : Bench}
    (hfault : bench.bus.fault = none) :
    ∃ after, (send pairs).run bench = (.ok (), after) ∧ bench.Dispatched after ∧
      (send pairs).commits bench = bench.bus.flushed bench.clock ++
        pairs.map (.written (bench.bus.dispatches + 1) bench.clock) := by
  obtain ⟨result, accesses, after, hrun, hdispatched, hcommits, rfl, rfl⟩ :=
    (exchange_send pairs bench).run_of_fault_none hfault
  exact ⟨after, hrun, hdispatched, hcommits⟩

/-- A register is read. -/
theorem run_fetch_of_healthy (block : RegisterBlock) (leaf : String) {bench : Bench}
    (h : bench.Healthy) :
    ∃ value after, (block.fetch leaf).run bench = (.ok value, after) ∧ bench.Dispatched after ∧
      (block.fetch leaf).commits bench =
        [.fetched (bench.bus.dispatches + 1) bench.clock (block.path leaf, value)] := by
  obtain ⟨result, accesses, after, hrun, hdispatched, hcommits, value, rfl, hresult⟩ :=
    (block.exchange_fetch leaf h.queue).run_of_fault_none h.fault
  rw [h.unfilled] at hresult
  rw [Bus.flushed_of_queue_nil h.queue] at hcommits
  exact ⟨value, after, hrun.trans (by rw [hresult]; rfl), hdispatched, hcommits⟩

/-- Several registers are read in one dispatch. -/
theorem run_snapshot_of_healthy (block : RegisterBlock) (leaves : List String) {bench : Bench}
    (h : bench.Healthy) :
    ∃ values after, (block.snapshot leaves).run bench =
        (.ok { values := RegisterFile.storeAll .empty (leaves.zip values) }, after) ∧
      bench.Dispatched after ∧ values.length = leaves.length ∧
      (block.snapshot leaves).commits bench =
        (block.withValues leaves values).map (.fetched (bench.bus.dispatches + 1) bench.clock) := by
  obtain ⟨result, accesses, after, hrun, hdispatched, hcommits, values, hlength, rfl, hresult⟩ :=
    (block.exchange_snapshot leaves h.queue).run_of_fault_none h.fault
  -- No register is left unfilled, so the values that were read make a snapshot.
  have hnone : block.unfilledLeaf? bench.bus.unfilled leaves = none := by
    rw [h.unfilled, RegisterBlock.unfilledLeaf?, List.find?_eq_none]
    intro leaf _
    exact Bool.false_ne_true
  rw [RegisterBlock.snapshotOf, hnone] at hresult
  rw [Bus.flushed_of_queue_nil h.queue] at hcommits
  exact ⟨values, after, hrun.trans (by rw [hresult]), hdispatched, hlength, hcommits⟩

/-- On a bench with nothing arranged to go wrong, only a cancellation ends an exchange or a wait. -/
theorem stable_healthy {E : Error → Prop} (hcancelled : E .cancelled) :
    Stable Bench.Healthy E where
  send pairs bench h := by
    obtain ⟨after, hrun, hdispatched, -⟩ := run_send_of_healthy pairs h.fault
    rw [hrun]
    exact ⟨.of_dispatched hdispatched h.fault h.unfilled, by rintro e ⟨⟩⟩
  fetch block leaf bench h := by
    obtain ⟨value, after, hrun, hdispatched, -⟩ := run_fetch_of_healthy block leaf h
    rw [hrun]
    exact ⟨.of_dispatched hdispatched h.fault h.unfilled, by rintro e ⟨⟩⟩
  snapshot block leaves bench h := by
    obtain ⟨values, after, hrun, hdispatched, -⟩ := run_snapshot_of_healthy block leaves h
    rw [hrun]
    exact ⟨.of_dispatched hdispatched h.fault h.unfilled, by rintro e ⟨⟩⟩
  wait ms bench h := by
    have hbus := bench.bus_wait ms
    rw [run_wait]
    refine ⟨⟨?_, ?_, ?_⟩, fun e he => ?_⟩
    · rw [hbus]; exact h.queue
    · rw [hbus]; exact h.fault
    · rw [hbus]; exact h.unfilled
    · obtain rfl := Bench.eq_cancelled_of_wait he
      exact hcancelled

end OpticalTiming
