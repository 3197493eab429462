import OpticalTiming.Proofs.Sequencing

/-!
# Which registers a procedure touches

A `Footprint` lists registers that may be read and registers that may be written. `Procedure.Within`
says of the tree of requests alone that a procedure queues no other access, whatever the replies; it
passes from the parts of a procedure to the whole. On a bench with an empty queue such a procedure
commits only accesses that its footprint covers (`covers_of_mem_commits`), so it leaves every other
register's part of the journal alone (`not_isWriteTo_of_within`, `not_isReadOf_of_within`).
-/

namespace OpticalTiming

/-- Whether an access writes a register. -/
def Access.IsWriteTo (path : String) (a : Access) : Prop := a.kind = .write ∧ a.path = path

/-- Whether an access reads a register. -/
def Access.IsReadOf (path : String) (a : Access) : Prop := a.kind = .read ∧ a.path = path

instance (path : String) (a : Access) : Decidable (a.IsWriteTo path) := by
  unfold Access.IsWriteTo; infer_instance

instance (path : String) (a : Access) : Decidable (a.IsReadOf path) := by
  unfold Access.IsReadOf; infer_instance

/-- Registers that may be read, and registers that may be written. -/
structure Footprint where
  reads : List String
  writes : List String

namespace Footprint

/-- The registers of two footprints together. -/
def union (first second : Footprint) : Footprint where
  reads := first.reads ++ second.reads
  writes := first.writes ++ second.writes

/-- Whether a request stays within a footprint. -/
def Allows (footprint : Footprint) : Request → Prop
  | .read path => path ∈ footprint.reads
  | .write path _ => path ∈ footprint.writes
  | _ => True

/-- Whether a queued access stays within a footprint. -/
def AllowsQueued (footprint : Footprint) : Queued → Prop
  | .read path _ => path ∈ footprint.reads
  | .write path _ => path ∈ footprint.writes

/-- Whether a committed access stays within a footprint. -/
def Covers (footprint : Footprint) (a : Access) : Prop :=
  match a.kind with
  | .read => a.path ∈ footprint.reads
  | .write => a.path ∈ footprint.writes

theorem covers_of_isDoneBy {footprint : Footprint} {queued : Queued} {a : Access}
    (hqueued : footprint.AllowsQueued queued) (ha : queued.IsDoneBy a) : footprint.Covers a := by
  cases queued with
  | read path slot =>
    obtain ⟨hkind, hpath⟩ := ha
    rw [Covers, hkind, hpath]
    exact hqueued
  | write path value =>
    obtain ⟨hkind, hpath, -⟩ := ha
    rw [Covers, hkind, hpath]
    exact hqueued

theorem Covers.not_isWriteTo {footprint : Footprint} {a : Access} (h : footprint.Covers a)
    {path : String} (hpath : path ∉ footprint.writes) : ¬ a.IsWriteTo path := by
  rintro ⟨hkind, rfl⟩
  rw [Covers, hkind] at h
  exact hpath h

theorem Covers.not_isReadOf {footprint : Footprint} {a : Access} (h : footprint.Covers a)
    {path : String} (hpath : path ∉ footprint.reads) : ¬ a.IsReadOf path := by
  rintro ⟨hkind, rfl⟩
  rw [Covers, hkind] at h
  exact hpath h

end Footprint

namespace Procedure

variable {α β : Type} {footprint : Footprint}

/-- Whether a procedure asks only for accesses within a footprint, whatever the replies. -/
def Within (footprint : Footprint) : Procedure α → Prop
  | done _ => True
  | fail _ => True
  | ask request next => footprint.Allows request ∧ ∀ reply, (next reply).Within footprint

/-! ### From the parts to the whole -/

theorem Within.bind {p : Procedure α} {f : α → Procedure β} (hp : p.Within footprint)
    (hf : ∀ a, (f a).Within footprint) : (p >>= f).Within footprint := by
  induction p with
  | done a => exact hf a
  | fail e => trivial
  | ask request next ih => exact ⟨hp.1, fun reply => ih reply (hp.2 reply)⟩

theorem Within.attempt {p : Procedure α} (hp : p.Within footprint) :
    p.attempt.Within footprint := by
  induction p with
  | done a => trivial
  | fail e => trivial
  | ask request next ih => exact ⟨hp.1, fun reply => ih reply (hp.2 reply)⟩

theorem Within.mono {p : Procedure α} {larger : Footprint} (hp : p.Within footprint)
    (hreads : footprint.reads ⊆ larger.reads) (hwrites : footprint.writes ⊆ larger.writes) :
    p.Within larger := by
  induction p with
  | done a => trivial
  | fail e => trivial
  | ask request next ih =>
    refine ⟨?_, fun reply => ih reply (hp.2 reply)⟩
    cases request with
    | read path => exact hreads hp.1
    | write path value => exact hwrites hp.1
    | _ => trivial

theorem Within.left {p : Procedure α} (hp : p.Within footprint) (other : Footprint) :
    p.Within (footprint.union other) :=
  hp.mono (List.subset_append_left _ _) (List.subset_append_left _ _)

theorem Within.right {p : Procedure α} (hp : p.Within footprint) (other : Footprint) :
    p.Within (other.union footprint) :=
  hp.mono (List.subset_append_right _ _) (List.subset_append_right _ _)

theorem within_ofExcept (r : Except Error α) : (ofExcept r).Within footprint := by
  cases r <;> trivial

theorem within_dispatch : dispatch.Within footprint :=
  ⟨trivial, fun reply => within_ofExcept reply⟩

theorem within_wait (ms : Nat) : (wait ms).Within footprint :=
  ⟨trivial, fun reply => within_ofExcept reply⟩

theorem within_now : now.Within footprint := ⟨trivial, fun _ => trivial⟩

theorem within_wallClock : wallClock.Within footprint := ⟨trivial, fun _ => trivial⟩

theorem within_value (handle : Handle) : (value handle).Within footprint :=
  ⟨trivial, fun reply => within_ofExcept reply⟩

theorem within_read {path : String} (h : path ∈ footprint.reads) :
    (read path).Within footprint :=
  ⟨h, fun _ => trivial⟩

theorem within_write {path : String} (value : UInt32) (h : path ∈ footprint.writes) :
    (write path value).Within footprint :=
  ⟨h, fun _ => trivial⟩

theorem sequential_within (footprint : Footprint) :
    Sequential fun _ p => p.Within footprint where
  done _ := trivial
  bind := Within.bind

theorem within_pollUntil {interval timeout : Nat} {check : Procedure Bool}
    (hcheck : check.Within footprint) : (pollUntil interval timeout check).Within footprint :=
  (sequential_within footprint).pollUntil (within_wait interval) within_now hcheck

/-! ### What is committed -/

/-- No reply takes a bench out of a footprint that allows the request and the queue. -/
theorem allowsQueued_answer {request : Request} (hrequest : footprint.Allows request)
    {bench : Bench} (hqueue : ∀ queued ∈ bench.bus.queue, footprint.AllowsQueued queued) :
    ∀ queued ∈ (bench.answer request).2.bus.queue, footprint.AllowsQueued queued := by
  intro queued hmem
  cases request with
  | read path =>
    rcases List.mem_append.mp hmem with hold | hnew
    · exact hqueue queued hold
    · rw [List.mem_singleton.mp hnew]
      exact hrequest
  | write path value =>
    rcases List.mem_append.mp hmem with hold | hnew
    · exact hqueue queued hold
    · rw [List.mem_singleton.mp hnew]
      exact hrequest
  | dispatch =>
    -- A failed dispatch drops the queue, and any other one commits all of it.
    have hempty : bench.dispatch.2.bus.queue = [] := by
      rcases bench.dispatch_cases with ⟨message, -, h⟩ | ⟨-, h⟩ <;> rw [h]
      · rfl
      · exact bench.queue_dispatched
    have hmem : queued ∈ bench.dispatch.2.bus.queue := hmem
    rw [hempty] at hmem
    cases hmem
  | wait ms =>
    have hmem : queued ∈ (bench.wait ms).2.bus.queue := hmem
    rw [bench.bus_wait] at hmem
    exact hqueue queued hmem
  | _ => exact hqueue queued hmem

theorem covers_of_within {p : Procedure α} (hp : p.Within footprint) {bench : Bench}
    (hqueue : ∀ queued ∈ bench.bus.queue, footprint.AllowsQueued queued) :
    ∀ a ∈ p.commits bench, footprint.Covers a := by
  -- What a request commits was queued before it, so the induction has to carry the queue along.
  induction p generalizing bench with
  | done a => intro a ha; rw [commits_done] at ha; cases ha
  | fail e => intro a ha; rw [commits_fail] at ha; cases ha
  | ask request next ih =>
    intro a ha
    rcases mem_commits_ask ha with ⟨queued, hmem, hdone⟩ | ha
    · exact Footprint.covers_of_isDoneBy (hqueue queued hmem) hdone
    · exact ih _ (hp.2 _) (allowsQueued_answer hp.1 hqueue) a ha

/-- On a bench with an empty queue, a procedure commits only what its footprint covers. -/
theorem covers_of_mem_commits {p : Procedure α} (hp : p.Within footprint) {bench : Bench}
    (hqueue : bench.bus.queue = []) {a : Access} (ha : a ∈ p.commits bench) :
    footprint.Covers a :=
  covers_of_within hp (by rw [hqueue]; intro _ h; cases h) a ha

theorem not_isWriteTo_of_within {p : Procedure α} (hp : p.Within footprint) {bench : Bench}
    (hqueue : bench.bus.queue = []) {path : String} (hpath : path ∉ footprint.writes) {a : Access}
    (ha : a ∈ p.commits bench) : ¬ a.IsWriteTo path :=
  (covers_of_mem_commits hp hqueue ha).not_isWriteTo hpath

theorem not_isReadOf_of_within {p : Procedure α} (hp : p.Within footprint) {bench : Bench}
    (hqueue : bench.bus.queue = []) {path : String} (hpath : path ∉ footprint.reads) {a : Access}
    (ha : a ∈ p.commits bench) : ¬ a.IsReadOf path :=
  (covers_of_mem_commits hp hqueue ha).not_isReadOf hpath

end Procedure

end OpticalTiming
