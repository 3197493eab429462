import OpticalTiming.Proofs.Refusing

/-!
# Looks at a status are paced

Polls look at the status of a receiver and at the done bit of an echo, and every look comes after a
wait of its own. `Procedure.Paced` says of the tree of requests alone that a status register is read
only if a wait was granted since the last dispatch. It holds of every call (`paced_perform`), of an
echo on its own and of the restart of a receiver. Once a token is cancelled no wait is granted any
more, so a paced procedure looks at no status then (`not_looksAtStatus_of_isCancelled`).
-/

namespace OpticalTiming

open Procedure

/-- Whether a register is one that a poll looks at: the lock of a receiver or the done bit of an
echo. -/
def IsStatusPath (path : String) : Prop :=
  ∃ block : RegisterBlock,
    path = block.path "csr.stat.ep_stat" ∨ path = block.path "csr.stat.rx_done"

/-- Whether an access reads a status register. -/
def Access.LooksAtStatus (a : Access) : Prop := a.kind = .read ∧ IsStatusPath a.path

/-- Whether a queued access reads a status register. -/
def Queued.LooksAtStatus : Queued → Prop
  | .read path _ => IsStatusPath path
  | .write _ _ => False

/-- The timestamps of an echo are not part of its status. -/
theorem not_isStatusPath_of_mem_stampLeaves (block : RegisterBlock) {leaf : String}
    (h : leaf ∈ EchoMonitor.stampLeaves) : ¬ IsStatusPath (block.path leaf) := by
  obtain ⟨hlock, hdone⟩ := EchoMonitor.apart_of_mem_stampLeaves h
  rintro ⟨other, hpath | hpath⟩
  · exact RegisterBlock.path_ne_of_apart hlock block other hpath
  · exact RegisterBlock.path_ne_of_apart hdone block other hpath

theorem Queued.looksAtStatus_of_isDoneBy {queued : Queued} {a : Access} (h : queued.IsDoneBy a)
    (ha : a.LooksAtStatus) : queued.LooksAtStatus := by
  cases queued with
  | read path slot =>
    obtain ⟨-, rfl⟩ := h
    exact ha.2
  | write path value =>
    obtain ⟨hkind, -⟩ := h
    rw [Access.LooksAtStatus, hkind] at ha
    cases ha.1

namespace Procedure

variable {α β : Type}

/-- Whether a wait was granted since the last dispatch, after one more request. -/
def waitedAfter (waited : Bool) : (request : Request) → request.Reply → Bool
  | .wait _, reply =>
    match (reply : Except Error Unit) with
    | .ok () => true
    | .error _ => waited
  | .dispatch, _ => false
  | _, _ => waited

/-- Whether a procedure reads a status register only if a wait was granted since the last dispatch;
`waited` tells whether one was granted before. -/
def Paced : Procedure α → (waited : Bool) → Prop
  | done _, _ => True
  | fail _, _ => True
  | ask request next, waited =>
    (∀ path, request = .read path → IsStatusPath path → waited = true) ∧
      ∀ reply, (next reply).Paced (waitedAfter waited request reply)

/-! ### From the parts to the whole -/

theorem waitedAfter_mono {waited waited' : Bool} (h : waited = true → waited' = true)
    (request : Request) (reply : request.Reply) :
    waitedAfter waited request reply = true → waitedAfter waited' request reply = true := by
  cases request with
  | dispatch => exact id
  | wait ms =>
    cases (reply : Except Error Unit) with
    | ok u => exact id
    | error e => exact h
  | _ => exact h

theorem Paced.mono {p : Procedure α} {waited waited' : Bool} (hp : p.Paced waited)
    (h : waited = true → waited' = true) : p.Paced waited' := by
  induction p generalizing waited waited' with
  | done a => trivial
  | fail e => trivial
  | ask request next ih =>
    exact ⟨fun path hread hpath => h (hp.1 path hread hpath),
      fun reply => ih reply (hp.2 reply) (waitedAfter_mono h request reply)⟩

theorem Paced.bind {p : Procedure α} {f : α → Procedure β} {waited : Bool} (hp : p.Paced waited)
    (hf : ∀ a, (f a).Paced false) : (p >>= f).Paced waited := by
  induction p generalizing waited with
  | done a => exact (hf a).mono (by rintro ⟨⟩)
  | fail e => trivial
  | ask request next ih => exact ⟨hp.1, fun reply => ih reply (hp.2 reply)⟩

theorem Paced.attempt {p : Procedure α} {waited : Bool} (hp : p.Paced waited) :
    p.attempt.Paced waited := by
  induction p generalizing waited with
  | done a => trivial
  | fail e => trivial
  | ask request next ih => exact ⟨hp.1, fun reply => ih reply (hp.2 reply)⟩

theorem paced_ofExcept (r : Except Error α) (waited : Bool) : (ofExcept r).Paced waited := by
  cases r <;> trivial

theorem paced_dispatch (waited : Bool) : dispatch.Paced waited :=
  ⟨by rintro path ⟨⟩, fun reply => paced_ofExcept reply _⟩

theorem paced_wait (ms : Nat) (waited : Bool) : (wait ms).Paced waited :=
  ⟨by rintro path ⟨⟩, fun reply => paced_ofExcept reply _⟩

theorem paced_value (handle : Handle) (waited : Bool) : (value handle).Paced waited :=
  ⟨by rintro path ⟨⟩, fun reply => paced_ofExcept reply _⟩

theorem paced_now (waited : Bool) : now.Paced waited := ⟨by rintro path ⟨⟩, fun _ => trivial⟩

theorem paced_read {path : String} {waited : Bool} (h : IsStatusPath path → waited = true) :
    (read path).Paced waited :=
  ⟨by rintro other ⟨⟩; exact h, fun _ => trivial⟩

theorem paced_write (path : String) (value : UInt32) (waited : Bool) :
    (write path value).Paced waited :=
  ⟨by rintro other ⟨⟩, fun _ => trivial⟩

theorem sequential_paced : Sequential fun _ p => p.Paced false where
  done _ := trivial
  bind := Paced.bind

theorem paced_send (pairs : List (String × UInt32)) : (send pairs).Paced false :=
  sequential_paced.send (fun pair _ => paced_write pair.1 pair.2 false) (paced_dispatch false)

/-- A look is paced if a wait comes before it. -/
theorem paced_wait_check (interval : Nat) (block : RegisterBlock) (leaf : String)
    (accept : UInt32 → Bool) :
    (wait interval >>= fun _ => block.check leaf accept).Paced false := by
  have hcheck : (block.check leaf accept).Paced true := by
    have hfetch : (block.fetch leaf).Paced true :=
      ⟨fun _ _ _ => rfl, fun handle => (paced_dispatch true).bind fun _ => paced_value handle false⟩
    exact hfetch.bind fun _ => trivial
  refine ⟨by rintro path ⟨⟩, fun reply => ?_⟩
  cases (reply : Except Error Unit) with
  | ok u => exact hcheck
  | error e => trivial

theorem paced_pollUntil (interval timeout : Nat) (block : RegisterBlock) (leaf : String)
    (accept : UInt32 → Bool) :
    (pollUntil interval timeout (block.check leaf accept)).Paced false := by
  refine (paced_now false).bind fun start => ?_
  generalize (0 : UInt32) = attempts
  induction pollBound interval timeout generalizing attempts with
  | zero => trivial
  | succ rounds ih =>
    -- The wait and the look belong together; the look alone is not paced.
    rw [pollRounds, ← bind_assoc]
    refine (paced_wait_check interval block leaf accept).bind fun holds => ?_
    split
    · trivial
    · refine (paced_now false).bind fun time => ?_
      split
      · trivial
      · exact ih _

theorem paced_snapshot {block : RegisterBlock} {leaves : List String}
    (h : ∀ leaf ∈ leaves, ¬ IsStatusPath (block.path leaf)) :
    (block.snapshot leaves).Paced false :=
  sequential_paced.snapshot (fun leaf hmem => paced_read fun hpath => absurd hpath (h leaf hmem))
    (paced_dispatch false) fun handle => paced_value handle false

/-- Pacing passes from the exchanges, waits and polls to everything that is put together from
them. -/
theorem compositional_paced : Compositional fun _ p => p.Paced false where
  done _ := trivial
  fail _ _ := trivial
  bind := Paced.bind
  handle hp hpass hok hlink :=
    hp.attempt.bind (forall_handler (P := (·.Paced false)) (fun _ => trivial) hpass hok hlink)
  send := paced_send
  wait ms := paced_wait ms false
  wallClock := ⟨by rintro path ⟨⟩, fun _ => trivial⟩
  poll := paced_pollUntil
  stamps block := paced_snapshot fun _ => not_isStatusPath_of_mem_stampLeaves block

/-- Every call is paced. -/
theorem paced_perform (design : Design) (settings : CalibrationSettings) (call : Design.Call) :
    (call.perform design settings).Paced false :=
  Design.Call.compositional compositional_paced design settings call fun _ _ htarget _ _ _ =>
    (compositional_paced.release htarget).attempt.bind fun _ => trivial

/-- An echo on its own is paced, whatever state it starts from. -/
theorem paced_trip (trip : EchoTrip) : trip.run.Paced false :=
  compositional_paced.trip Paced.attempt trip

/-! ### After a cancellation -/

variable {bench : Bench}

/-- No read of a status register is added to the queue of a bench unless a wait was granted, and a
dispatch leaves none there. -/
theorem clean_answer {request : Request} {waited : Bool}
    (hrequest : ∀ path, request = .read path → IsStatusPath path → waited = true)
    (hclean : waited = false → ∀ queued ∈ bench.bus.queue, ¬ queued.LooksAtStatus) :
    waitedAfter waited request (bench.answer request).1 = false →
      ∀ queued ∈ (bench.answer request).2.bus.queue, ¬ queued.LooksAtStatus := by
  intro hwaited queued hmem
  cases request with
  | read path =>
    rcases List.mem_append.mp hmem with hold | hnew
    · exact hclean hwaited queued hold
    · rw [List.mem_singleton.mp hnew]
      intro hpath
      have htrue := hrequest path rfl hpath
      rw [show waited = false from hwaited] at htrue
      cases htrue
  | write path value =>
    rcases List.mem_append.mp hmem with hold | hnew
    · exact hclean hwaited queued hold
    · rw [List.mem_singleton.mp hnew]
      exact id
  | dispatch =>
    have hmem : queued ∈ bench.dispatch.2.bus.queue := hmem
    rw [bench.queue_dispatch] at hmem
    cases hmem
  | wait ms =>
    have hfalse : waited = false := by
      cases waited with
      | false => rfl
      | true =>
        revert hwaited
        show waitedAfter true (.wait ms) (bench.wait ms).1 = false → _
        rcases (bench.wait ms).1 with e | u <;> exact fun h => by cases h
    have hmem : queued ∈ (bench.wait ms).2.bus.queue := hmem
    rw [bench.bus_wait] at hmem
    exact hclean hfalse queued hmem
  | _ => exact hclean hwaited queued hmem

/-- No request takes the cancellation of a token back. -/
theorem isCancelled_answer (request : Request) (h : bench.token.isCancelled = true) :
    (bench.answer request).2.token.isCancelled = true := by
  cases request with
  | dispatch =>
    show bench.dispatch.2.token.isCancelled = true
    rcases bench.dispatch_cases with ⟨message, -, hdispatch⟩ | ⟨-, hdispatch⟩ <;> rw [hdispatch]
    · exact h
    · show bench.token.afterDispatch.isCancelled = true
      unfold Cancellation.afterDispatch
      split
      · rfl
      · exact h
      · exact h
  | wait ms =>
    show (bench.wait ms).2.token.isCancelled = true
    rw [Bench.wait, if_pos h]
    exact h
  | _ => exact h

/-- With a cancelled token a paced procedure looks at no status. -/
theorem not_looksAtStatus_of_isCancelled {p : Procedure α} (hp : p.Paced false)
    (hcancelled : bench.token.isCancelled = true)
    (hclean : ∀ queued ∈ bench.bus.queue, ¬ queued.LooksAtStatus) :
    ∀ a ∈ p.commits bench, ¬ a.LooksAtStatus := by
  induction p generalizing bench with
  | done a =>
    intro a ha
    rw [commits_done] at ha
    cases ha
  | fail e =>
    intro a ha
    rw [commits_fail] at ha
    cases ha
  | ask request next ih =>
    -- No wait is granted any more.
    have hwaited : waitedAfter false request (bench.answer request).1 = false := by
      cases request with
      | wait ms =>
        show waitedAfter false (.wait ms) (bench.wait ms).1 = false
        rw [Bench.wait, if_pos hcancelled]
        rfl
      | _ => rfl
    intro a ha
    rcases mem_commits_ask ha with ⟨queued, hmem, hdone⟩ | ha
    · exact fun hlooks => hclean queued hmem (Queued.looksAtStatus_of_isDoneBy hdone hlooks)
    · have hrest := hp.2 (bench.answer request).1
      rw [hwaited] at hrest
      exact ih _ hrest (isCancelled_answer request hcancelled)
        (clean_answer hp.1 (fun _ => hclean) hwaited) a ha

end Procedure

end OpticalTiming
