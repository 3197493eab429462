import Mathlib.Data.List.Induction
import Mathlib.Data.Nat.PSub
import OpticalTiming.Proofs.Conserving
import OpticalTiming.Proofs.Exchange

/-!
# The life of a handle

A handle outlives the dispatch that carries out its read, or that drops it. Two events can give it a
value, `Provides`: the dispatch that carries out its read, with the value that is journaled for it,
and a value that is filled in by hand. `life_of_handle` says that the first of them decides the
value for good, in any history. The read of a handle goes with the first attempt to dispatch, so a
handle whose attempt fails gets no value from a later one.

`Tracks` is what the register space knows of a handle: where its read stands in the queue, and what
its slot holds. `Tracks.act` and `Tracks.dispatch_cases` say how a use changes that. `Outlook` is the
little that decides whether a handle has a value, and `sees_reached` finds that nothing but the
signals for this one handle enters into it: what is done with the others makes no difference.
-/

namespace OpticalTiming

namespace Bus

/-! ### Uses -/

/-- A use of a register space: a call of one of its operations, or its journal is emptied. -/
inductive Use where
  | call (operation : Operation)
  | clearJournal

namespace Use

/-- The register space after a use. -/
def act (bus : Bus) : Use → Bus
  | call operation => operation.act bus
  | clearJournal => bus.clearJournal

/-- Whether a use attempts a dispatch. -/
def isDispatch : Use → Bool
  | call operation => operation.isDispatch
  | clearJournal => false

/-- The value that a use fills in by hand for a handle. -/
def filling? (handle : Handle) : Use → Option UInt32
  | call (.fill other value) => if other.index = handle.index then some value else none
  | _ => none

theorem eq_of_isDispatch {use : Use} (h : use.isDispatch = true) :
    ∃ time, use = .call (.dispatch time) := by
  rcases use with operation | _
  · cases operation with
    | dispatch time => exact ⟨time, rfl⟩
    | _ => cases h
  · cases h

end Use

/-- The register space after uses of a new one. -/
def ofUses (uses : List Use) : Bus := uses.foldl Use.act {}

/-- The handle of a read of a register after some uses. -/
def handed (before : List Use) (path : String) : Handle := ((ofUses before).read path).1

/-- The register space when the handle was handed out and some more uses have followed. -/
def reached (before : List Use) (path : String) (since : List Use) : Bus :=
  since.foldl Use.act ((ofUses before).read path).2

/-- A use gives a handle a value: the value is filled in by hand, or a successful dispatch carries
out the read of the handle and journals the value in its place. -/
inductive Provides (bus : Bus) (handle : Handle) : Use → UInt32 → Prop
  | fill {use : Use} {value : UInt32} (filling : use.filling? handle = some value) :
    Provides bus handle use value
  | dispatch {time place : Nat} {value : UInt32} {next : Bus}
    (queued : bus.queue[place]? = some (.read handle.path (some handle.index)))
    (success : bus.dispatch time = (.ok (), next))
    (journaled : next.journal[bus.journal.length + place]? = some
      { dispatch := bus.dispatches + 1, kind := .read, path := handle.path, value, time }) :
    Provides bus handle (.call (.dispatch time)) value

/-- None of the uses since its read gave the handle a value. -/
def Unprovided (before : List Use) (path : String) (since : List Use) : Prop :=
  ∀ first use rest value, since = first ++ use :: rest →
    ¬ Provides (reached before path first) (handed before path) use value

/-- What can bear on whether a handle has a value. -/
inductive Signal where
  | filled
  | attempted
  | armed (successful : Nat)
  deriving Repr, DecidableEq

/-- What a use means for a handle, if it means anything. -/
def Use.signal? (handle : Handle) : Use → Option Signal
  | call (.fill other _) => if other.index = handle.index then some .filled else none
  | call (.dispatch _) => some .attempted
  | call (.failAfter successful _) => some (.armed successful)
  | _ => none

/-- How many attempts to dispatch are successful before one fails. -/
def due? (bus : Bus) : Option Nat := bus.fault.map Fault.remaining

/-- The life of the handle that a read of a register hands out after some uses. -/
structure Life (before : List Use) (path : String) : Prop where
  /-- Until an event gives it a value, the handle has none. -/
  waits : ∀ since, Unprovided before path since →
    (reached before path since).value (handed before path) = .error (.notDispatched path)
  /-- The first event that gives it a value decides the value for good. -/
  lasts : ∀ first use value rest, Unprovided before path first →
    Provides (reached before path first) (handed before path) use value →
    (reached before path (first ++ use :: rest)).value (handed before path) = .ok value
  /-- The first attempt to dispatch carries out the read, if it is successful. -/
  carried : ∀ first time next, (∀ use ∈ first, use.isDispatch = false) →
    (reached before path first).dispatch time = (.ok (), next) →
    ∃ value, Provides (reached before path first) (handed before path) (.call (.dispatch time))
      value
  /-- A dispatch that fails makes no difference to the handle, and neither does any dispatch after
  the first attempt, be it that this one failed or not. -/
  dropped : ∀ since time,
    ((reached before path since).dispatch time).1 ≠ .ok () ∨
      (∃ use ∈ since, use.isDispatch = true) →
    ((reached before path since).dispatch time).2.value (handed before path) =
      (reached before path since).value (handed before path)
  /-- No read before has handed out the same handle. -/
  new : ∀ first other rest, before = first ++ .call (.read other) :: rest →
    (handed first other).index ≠ (handed before path).index
  /-- No read since has handed out the same handle. -/
  unique : ∀ first other,
    ((reached before path first).read other).1.index ≠ (handed before path).index
  /-- Two handles for which all signals are the same are ready at the same time, whatever was done
  with the other handles, before or since. -/
  alone : ∀ before' path' since since', path' ∉ (ofUses before').unfilled →
    (ofUses before).due? = (ofUses before').due? →
    since.filterMap (Use.signal? (handed before path)) =
      since'.filterMap (Use.signal? (handed before' path')) →
    (reached before path since).isReady (handed before path) =
      (reached before' path' since').isReady (handed before' path')

/-! ### A value stays -/

/-- What a queued access leaves in the journal depends on those before it. -/
theorem getElem?_entries (bus : Bus) (front back : List Queued) (queued : Queued) (time : Nat) :
    (entries time bus (front ++ queued :: back))[front.length]? =
      some ((front.foldl (commit time) bus).entry time queued) := by
  have hlength := length_entries time bus front
  rw [entries_append, List.getElem?_append_right (Nat.le_of_eq hlength), hlength, Nat.sub_self, entries,
    List.getElem?_cons_zero]

section

variable {bus : Bus} {i : Nat} {value : UInt32}

/-- No use takes a value back. -/
theorem Use.slots_act_of_some (h : bus.slots[i]? = some (some value)) (use : Use) :
    (use.act bus).slots[i]? = some (some value) := by
  rcases use with operation | _
  · cases operation with
    | fill handle other =>
      refine (getElem?_fillSlot _ _ _ _).trans ?_
      rw [h, Option.map_some, Option.getD_some, ite_self]
    | read path =>
      have hlt : i < bus.slots.size := (Array.getElem?_eq_some_iff.mp h).1
      refine Array.getElem?_push.trans ?_
      rw [if_neg (Nat.ne_of_lt hlt), h]
    | dispatch time =>
      rcases bus.dispatch_cases time with ⟨message, -, hdispatch⟩ | ⟨-, hdispatch⟩
      · show (bus.dispatch time).2.slots[i]? = _
        rw [hdispatch]
        exact h
      · show (bus.dispatch time).2.slots[i]? = _
        rw [hdispatch]
        exact slots_foldl_of_some h
    | _ => exact h
  · exact h

theorem slots_foldl_act_of_some (h : bus.slots[i]? = some (some value)) (uses : List Use) :
    (uses.foldl Use.act bus).slots[i]? = some (some value) :=
  List.foldlRecOn (motive := fun bus => bus.slots[i]? = some (some value)) uses Use.act h
    fun _ h use _ => Use.slots_act_of_some h use

end

/-! ### What is known of a handle -/

/-- What a register space knows of a handle: the content of its slot, and the place of its read in
the queue, if it is queued. No other queued read is for the same slot. -/
structure Tracks (bus : Bus) (handle : Handle) (place? : Option Nat) (value? : Option UInt32) :
    Prop where
  slot : bus.slots[handle.index]? = some value?
  queue : ∀ j other, bus.queue[j]? = some (.read other (some handle.index)) ↔
    place? = some j ∧ other = handle.path

namespace Tracks

variable {bus next : Bus} {handle : Handle} {place : Nat} {place? : Option Nat}
  {value? : Option UInt32} {use : Use} {time : Nat}

theorem value_eq (h : Tracks bus handle place? value?) :
    bus.value handle = value?.elim (.error (.notDispatched handle.path)) .ok := by
  rw [value, h.slot]
  cases value? <;> rfl

theorem isReady_eq (h : Tracks bus handle place? value?) : bus.isReady handle = value?.isSome := by
  rw [isReady, h.slot]
  rfl

/-- Queueing accesses for other slots changes nothing about a handle. -/
theorem enqueue (h : Tracks bus handle place? value?) {more : List Queued}
    (hslots : next.slots[handle.index]? = bus.slots[handle.index]?)
    (hqueue : next.queue = bus.queue ++ more)
    (hmore : ∀ path, .read path (some handle.index) ∉ more) : Tracks next handle place? value? := by
  refine ⟨hslots.trans h.slot, fun j other => ?_⟩
  rw [← h.queue j other, hqueue]
  rcases Nat.lt_or_ge j bus.queue.length with hlt | hge
  · rw [List.getElem?_append_left hlt]
  · -- Nothing behind the old queue is for the slot, and nothing of the old queue is there.
    rw [List.getElem?_append_right hge, List.getElem?_eq_none hge]
    refine iff_of_false (fun hmem => ?_) (Option.some_ne_none _).symm
    exact hmore other (List.mem_of_getElem? hmem)

/-- The only use short of a dispatch that counts is a value that is filled in by hand. -/
theorem act (h : Tracks bus handle place? value?) (hkind : use.isDispatch = false) :
    Tracks (use.act bus) handle place? (value?.or (use.filling? handle)) := by
  have hnone : value?.or none = value? := Option.or_none
  have hlt : handle.index < bus.slots.size := (Array.getElem?_eq_some_iff.mp h.slot).1
  rcases use with operation | _
  · cases operation with
    | dispatch time => cases hkind
    | fill other value =>
      refine ⟨(getElem?_fillSlot _ _ _ _).trans ?_, h.queue⟩
      show _ = some (value?.or (if other.index = handle.index then some value else none))
      rw [h.slot]
      split
      · cases value? <;> rfl
      · rw [hnone]
    | read other =>
      show Tracks _ handle place? (value?.or none)
      rw [hnone]
      refine h.enqueue (Array.getElem?_push.trans (if_neg (Nat.ne_of_lt hlt))) rfl fun path hmem => ?_
      -- The slot of the new read is the next one.
      have hslot := (Queued.read.inj (List.mem_singleton.mp hmem)).2
      split at hslot
      · cases hslot
      · exact Nat.ne_of_lt hlt (Option.some.inj hslot)
    | write other value =>
      show Tracks _ handle place? (value?.or none)
      rw [hnone]
      exact h.enqueue rfl rfl fun path hmem => by cases List.mem_singleton.mp hmem
    | _ =>
      show Tracks _ handle place? (value?.or none)
      rw [hnone]
      exact ⟨h.slot, h.queue⟩
  · show Tracks _ handle place? (value?.or none)
    rw [hnone]
    exact ⟨h.slot, h.queue⟩

/-- A register space with an empty queue and the same slot has no read for the handle. -/
theorem of_queue_nil (h : bus.slots[handle.index]? = some value?) (hqueue : bus.queue = []) :
    Tracks bus handle none value? := by
  refine ⟨h, fun j other => ?_⟩
  rw [hqueue, List.getElem?_nil]
  exact iff_of_false (Option.some_ne_none _).symm fun hnone => (Option.some_ne_none j) hnone.1.symm

/-- A dispatch without the read of a handle changes nothing about it. -/
theorem flush_of_absent (h : Tracks bus handle none value?) (time : Nat) :
    Tracks (bus.flush time) handle none value? := by
  refine of_queue_nil ((slots_foldl_other fun path hmem => ?_).trans h.slot) (queue_flush bus)
  obtain ⟨j, hj⟩ := List.mem_iff_getElem?.mp hmem
  exact Option.some_ne_none j ((h.queue j path).mp hj).1.symm

/-- The read of a handle is the only one for its slot in the queue, and stands at its place. -/
theorem exists_split_of_queued (h : Tracks bus handle (some place) value?) :
    ∃ front back, bus.queue = front ++ .read handle.path (some handle.index) :: back ∧
      front.length = place ∧ (∀ path, .read path (some handle.index) ∉ front) ∧
      ∀ path, .read path (some handle.index) ∉ back := by
  have hplace := (h.queue place handle.path).mpr ⟨rfl, rfl⟩
  have honly : ∀ j path, bus.queue[j]? = some (.read path (some handle.index)) → j = place :=
    fun j path hj => (Option.some.inj ((h.queue j path).mp hj).1).symm
  obtain ⟨hlt, hget⟩ := List.getElem?_eq_some_iff.mp hplace
  have hlength : (bus.queue.take place).length = place :=
    List.length_take_of_le (Nat.le_of_lt hlt)
  have hsplit : bus.queue =
      bus.queue.take place ++ .read handle.path (some handle.index) :: bus.queue.drop (place + 1) := by
    rw [← hget, List.getElem_cons_drop, List.take_append_drop]
  refine ⟨_, _, hsplit, hlength, fun path hmem => ?_, fun path hmem => ?_⟩
  · obtain ⟨j, hj⟩ := List.mem_iff_getElem?.mp hmem
    have hbefore := (List.getElem?_eq_some_iff.mp hj).1
    rw [← List.getElem?_append_left hbefore, ← hsplit] at hj
    exact Nat.ne_of_lt (hlength ▸ hbefore) (honly j path hj)
  · obtain ⟨j, hj⟩ := List.mem_iff_getElem?.mp hmem
    rw [List.getElem?_drop] at hj
    have hplace := honly _ path hj
    omega

/-- A dispatch with the read of a handle journals a value for it, and this is the value of the
handle unless it had one. -/
theorem flush_of_queued (h : Tracks bus handle (some place) value?) (time : Nat) :
    ∃ value, (bus.flush time).journal[bus.journal.length + place]? = some
        { dispatch := bus.dispatches + 1, kind := .read, path := handle.path, value, time } ∧
      Tracks (bus.flush time) handle none (some (value?.getD value)) := by
  obtain ⟨front, back, hsplit, hlength, hfront, hback⟩ := h.exists_split_of_queued
  let start : Bus := { bus with queue := [], dispatches := bus.dispatches + 1 }
  let reading := front.foldl (commit time) start
  refine ⟨reading.nextRead handle.path, ?_, of_queue_nil ?_ (queue_flush bus)⟩
  · have hnumber : reading.dispatches = bus.dispatches + 1 :=
      foldl_commit_eq dispatches (fun _ queued => by cases queued <;> rfl) front start
    have hentry := getElem?_entries start front back (.read handle.path (some handle.index)) time
    rw [hlength] at hentry
    rw [journal_flush, List.getElem?_append_right (Nat.le_add_right _ _), Nat.add_sub_cancel_left,
      flushed, hsplit]
    refine hentry.trans (congrArg some ?_)
    show Access.mk reading.dispatches .read handle.path (reading.nextRead handle.path) time = _
    rw [hnumber]
  · have hslot : reading.slots[handle.index]? = some value? :=
      (slots_foldl_other hfront).trans h.slot
    have hread : (commit time reading (.read handle.path (some handle.index))).slots[handle.index]? =
        some (some (value?.getD (reading.nextRead handle.path))) := slots_commit_read hslot _
    rw [flush, hsplit, List.foldl_append, List.foldl_cons]
    exact (slots_foldl_other hback).trans hread

/-- An attempt to dispatch either leaves the value of a handle alone, because it failed or did not
have the read of the handle, or provides the value. -/
theorem dispatch_cases (h : Tracks bus handle place? value?) (time : Nat) :
    (bus.due? = some 0 ∨ place? = none) ∧ Tracks (bus.dispatch time).2 handle none value? ∨
    bus.due? ≠ some 0 ∧ place?.isSome ∧
      ∃ value, Provides bus handle (.call (.dispatch time)) value ∧
        Tracks (bus.dispatch time).2 handle none (some (value?.getD value)) := by
  rcases bus.dispatch_cases time with ⟨message, hfault, hdispatch⟩ | ⟨hnone, hdispatch⟩
  · refine Or.inl ⟨Or.inl ?_, ?_⟩
    · rw [due?, hfault]
      rfl
    · rw [hdispatch]
      exact of_queue_nil h.slot rfl
  · cases place? with
    | none =>
      refine Or.inl ⟨Or.inr rfl, ?_⟩
      rw [hdispatch]
      have hflush := h.flush_of_absent time
      exact ⟨hflush.slot, hflush.queue⟩
    | some place =>
      obtain ⟨value, hjournal, hflush⟩ := h.flush_of_queued time
      refine Or.inr ⟨?_, rfl, value, .dispatch ((h.queue place _).mpr ⟨rfl, rfl⟩) hdispatch hjournal,
        ?_⟩
      · intro hdue
        obtain ⟨⟨_, message⟩, hfault, rfl⟩ := Option.map_eq_some_iff.mp hdue
        exact hnone message hfault
      · rw [hdispatch]
        exact ⟨hflush.slot, hflush.queue⟩

/-- What provides a handle with its first value. -/
theorem act_of_provides (h : Tracks bus handle place? none) {value : UInt32}
    (hprovides : Provides bus handle use value) :
    (use.act bus).slots[handle.index]? = some (some value) := by
  cases hprovides with
  | fill filling =>
    cases hkind : use.isDispatch with
    | false =>
      have hact := (h.act hkind).slot
      rwa [filling] at hact
    | true =>
      obtain ⟨time, rfl⟩ := Use.eq_of_isDispatch hkind
      cases filling
  | @dispatch time place value next queued success journaled =>
    obtain ⟨rfl, -⟩ := (h.queue place _).mp queued
    obtain ⟨value', hjournal, hflush⟩ := h.flush_of_queued time
    have hnext := eq_of_dispatch_ok success
    subst hnext
    -- Only one access stands in that place of the journal.
    have hvalue : value' = value :=
      congrArg Access.value (Option.some.inj (hjournal.symm.trans journaled))
    show (bus.dispatch time).2.slots[handle.index]? = _
    rw [success, ← hvalue]
    exact hflush.slot

/-- Without a use that provides a value, a handle gets none. -/
theorem act_of_not_provides (h : Tracks bus handle place? none)
    (hnone : ∀ value, ¬ Provides bus handle use value) :
    (use.act bus).slots[handle.index]? = some none := by
  cases hkind : use.isDispatch with
  | false =>
    have hact := (h.act hkind).slot
    have hfilling : use.filling? handle = none :=
      Option.eq_none_iff_forall_ne_some.mpr fun value hsome => hnone value (.fill hsome)
    rwa [hfilling] at hact
  | true =>
    obtain ⟨time, rfl⟩ := Use.eq_of_isDispatch hkind
    rcases h.dispatch_cases time with ⟨-, hdispatch⟩ | ⟨-, -, value, hprovides, -⟩
    · exact hdispatch.slot
    · exact absurd hprovides (hnone value)

end Tracks

/-! ### What a handle depends on -/

/-- What decides whether a handle has a value: how many attempts to dispatch are successful before
one fails, whether the read is still queued, and whether there is a value already. -/
structure Outlook where
  due? : Option Nat
  queued : Bool
  ready : Bool

/-- The outlook after a signal. -/
def Outlook.step (outlook : Outlook) : Signal → Outlook
  | .filled => { outlook with ready := true }
  | .armed successful => { outlook with due? := some successful }
  | .attempted =>
    { due? := outlook.due?.bind Nat.ppred
      queued := false
      ready := outlook.ready || (outlook.queued && outlook.due? ≠ some 0) }

/-- The outlook for a handle that was just handed out. -/
def Outlook.new (bus : Bus) : Outlook where
  due? := bus.due?
  queued := true
  ready := false

/-- An outlook for a handle is right. -/
structure Sees (bus : Bus) (handle : Handle) (outlook : Outlook) : Prop where
  due? : bus.due? = outlook.due?
  tracks : ∃ place? value?, Tracks bus handle place? value? ∧
    place?.isSome = outlook.queued ∧ value?.isSome = outlook.ready

/-- A dispatch counts off a failure to come. -/
theorem due?_dispatch (bus : Bus) (time : Nat) :
    (bus.dispatch time).2.due? = bus.due?.bind Nat.ppred := by
  have hfault : (bus.dispatch time).2.fault = bus.fault.bind Fault.rest? :=
    @fault_act (.dispatch time) rfl bus
  rw [due?, due?, hfault]
  rcases bus.fault with _ | ⟨_ | n, message⟩ <;> rfl

/-- An outlook stays right when it takes in the signals of the uses. -/
theorem Sees.act {bus : Bus} {handle : Handle} {outlook : Outlook} (h : Sees bus handle outlook)
    (use : Use) : Sees (use.act bus) handle ((use.signal? handle).elim outlook outlook.step) := by
  obtain ⟨hdue, place?, value?, htracks, hqueued, hready⟩ := h
  cases hkind : use.isDispatch with
  | true =>
    obtain ⟨time, rfl⟩ := Use.eq_of_isDispatch hkind
    show Sees (bus.dispatch time).2 handle (outlook.step .attempted)
    refine ⟨(due?_dispatch bus time).trans (congrArg (·.bind Nat.ppred) hdue), ?_⟩
    rcases htracks.dispatch_cases time with ⟨hcase, hnext⟩ | ⟨hlate, hsome, value, -, hnext⟩
    · refine ⟨_, _, hnext, rfl, ?_⟩
      rw [hready, Outlook.step, ← hdue, ← hqueued]
      rcases hcase with hdue | hplace
      · simp [hdue]
      · simp [hplace]
    · refine ⟨_, _, hnext, rfl, ?_⟩
      simp [Outlook.step, ← hdue, ← hqueued, hlate, hsome]
  | false =>
    have hnext := htracks.act hkind
    have hkept : (value?.or none).isSome = outlook.ready := by rwa [Option.or_none]
    rcases use with operation | _
    · cases operation with
      | dispatch time => cases hkind
      | failAfter successful message => exact ⟨rfl, _, _, hnext, hqueued, hkept⟩
      | fill other value =>
        by_cases hindex : other.index = handle.index
        · have hsignal : Use.signal? handle (.call (.fill other value)) = some .filled :=
            if_pos hindex
          rw [hsignal]
          refine ⟨hdue, _, _, hnext, hqueued, ?_⟩
          rw [Use.filling?, if_pos hindex]
          cases value? <;> rfl
        · have hsignal : Use.signal? handle (.call (.fill other value)) = none := if_neg hindex
          rw [hsignal]
          refine ⟨hdue, _, _, hnext, hqueued, ?_⟩
          rw [Use.filling?, if_neg hindex]
          exact hkept
      | _ => exact ⟨hdue, _, _, hnext, hqueued, hkept⟩
    · exact ⟨hdue, _, _, hnext, hqueued, hkept⟩

/-! ### Handing out -/

theorem size_foldl_commit (queue : List Queued) (bus : Bus) (time : Nat) :
    (queue.foldl (commit time) bus).slots.size = bus.slots.size := by
  refine foldl_commit_eq (fun bus => bus.slots.size) (fun bus queued => ?_) queue bus
  rcases queued with ⟨path, slot | index⟩ | _
  · rfl
  · exact Array.size_modify
  · rfl

/-- No use takes a slot away. -/
theorem Use.size_act (use : Use) (bus : Bus) : bus.slots.size ≤ (use.act bus).slots.size := by
  rcases use with operation | _
  · cases operation with
    | read path =>
      show _ ≤ (bus.slots.push none).size
      rw [Array.size_push]
      exact Nat.le_succ _
    | fill handle value => exact Nat.le_of_eq Array.size_modify.symm
    | dispatch time =>
      show _ ≤ (bus.dispatch time).2.slots.size
      rcases bus.dispatch_cases time with ⟨message, -, hdispatch⟩ | ⟨-, hdispatch⟩
      · rw [hdispatch]
      · rw [hdispatch]
        have hsize := size_foldl_commit bus.queue
          { bus with queue := [], dispatches := bus.dispatches + 1 } time
        exact Nat.le_of_eq hsize.symm
    | _ => exact Nat.le_refl _
  · exact Nat.le_refl _

theorem size_foldl_act (uses : List Use) (bus : Bus) :
    bus.slots.size ≤ (uses.foldl Use.act bus).slots.size :=
  List.foldlRecOn (motive := fun next => bus.slots.size ≤ next.slots.size) uses Use.act
    (Nat.le_refl _) fun next h use _ => Nat.le_trans h (use.size_act next)

/-- The slot of a handle that is handed out exists ever after. -/
theorem index_read_lt (bus : Bus) (path : String) (since : List Use) :
    (bus.read path).1.index < (since.foldl Use.act (bus.read path).2).slots.size := by
  refine Nat.lt_of_lt_of_le ?_ (size_foldl_act since _)
  show bus.slots.size < (bus.slots.push none).size
  rw [Array.size_push]
  exact Nat.lt_succ_self _

theorem Allotted.act {bus : Bus} (h : Allotted bus) (use : Use) : Allotted (use.act bus) := by
  have hold : ∀ path i, .read path (some i) ∈ bus.queue → i < (use.act bus).slots.size :=
    fun path i hmem => Nat.lt_of_lt_of_le (h path i hmem) (use.size_act bus)
  intro path i hmem
  rcases use with operation | _
  · cases operation with
    | read other =>
      rcases List.mem_append.mp hmem with hqueued | hnew
      · exact hold path i hqueued
      · have hslot := (Queued.read.inj (List.mem_singleton.mp hnew)).2
        split at hslot
        · cases hslot
        · rw [Option.some.inj hslot]
          show _ < (bus.slots.push none).size
          rw [Array.size_push]
          exact Nat.lt_succ_self _
    | write other value =>
      rcases List.mem_append.mp hmem with hqueued | hnew
      · exact hold path i hqueued
      · cases List.mem_singleton.mp hnew
    | dispatch time =>
      rw [show (Use.act bus (.call (.dispatch time))).queue = [] from bus.queue_dispatch time] at hmem
      cases hmem
    | _ => exact hold path i hmem
  · exact hold path i hmem

theorem Allotted.foldl_act {bus : Bus} (h : Allotted bus) (uses : List Use) :
    Allotted (uses.foldl Use.act bus) :=
  List.foldlRecOn uses Use.act h fun _ h use _ => h.act use

theorem allotted_ofUses (uses : List Use) : Allotted (ofUses uses) :=
  (allotted_of_queue_nil rfl).foldl_act uses

variable {before : List Use} {path : String}

/-- What is known of a handle that was just handed out. -/
theorem tracks_handed (hfilled : path ∉ (ofUses before).unfilled) :
    Tracks (reached before path []) (handed before path) (some (ofUses before).queue.length)
      none := by
  have hold := allotted_ofUses before
  have hslot : (if (ofUses before).unfilled.contains path then none
      else some (ofUses before).slots.size) = some (ofUses before).slots.size :=
    if_neg fun hmem => hfilled (List.contains_iff_mem.mp hmem)
  refine ⟨Array.getElem?_push_size, fun j other => ?_⟩
  show ((ofUses before).queue ++ [Queued.read path _])[j]? = some (.read other
    (some (ofUses before).slots.size)) ↔ some (ofUses before).queue.length = some j ∧ other = path
  rw [hslot]
  rcases Nat.lt_trichotomy j (ofUses before).queue.length with hlt | rfl | hgt
  · -- Slots that exist already are not handed out.
    rw [List.getElem?_append_left hlt]
    refine iff_of_false (fun hread => ?_) fun hplace => ?_
    · exact Nat.lt_irrefl _ (hold other _ (List.mem_of_getElem? hread))
    · exact Nat.ne_of_gt hlt (Option.some.inj hplace.1)
  · rw [List.getElem?_concat_length]
    simp [eq_comm]
  · rw [List.getElem?_eq_none (by rw [List.length_append]; exact hgt)]
    refine iff_of_false (Option.some_ne_none _).symm fun hplace => ?_
    exact Nat.ne_of_lt hgt (Option.some.inj hplace.1)

theorem reached_append (first since : List Use) :
    reached before path (first ++ since) = since.foldl Use.act (reached before path first) :=
  List.foldl_append

/-- The outlook for a handle takes in nothing but the signals for it. -/
theorem sees_reached (hfilled : path ∉ (ofUses before).unfilled) (since : List Use) :
    Sees (reached before path since) (handed before path)
      ((since.filterMap (Use.signal? (handed before path))).foldl Outlook.step
        (.new (ofUses before))) := by
  induction since using List.reverseRecOn with
  | nil => exact ⟨rfl, _, _, tracks_handed hfilled, rfl, rfl⟩
  | append_singleton since use ih =>
    have hact := ih.act use
    rw [reached_append, List.filterMap_append, List.foldl_append]
    cases hsignal : use.signal? (handed before path) with
    | none =>
      rw [hsignal] at hact
      rwa [List.filterMap_cons_none hsignal]
    | some signal =>
      rw [hsignal] at hact
      rwa [List.filterMap_cons_some hsignal]

theorem Unprovided.of_append {first since : List Use}
    (h : Unprovided before path (first ++ since)) : Unprovided before path first :=
  fun early use rest value hsplit => h early use (rest ++ since) value (by rw [hsplit]; simp)

/-- What is known of a handle as long as no event has provided a value. -/
theorem tracks_of_unprovided (hfilled : path ∉ (ofUses before).unfilled) {since : List Use}
    (h : Unprovided before path since) :
    ∃ place?, Tracks (reached before path since) (handed before path) place? none := by
  induction since using List.reverseRecOn with
  | nil => exact ⟨_, tracks_handed hfilled⟩
  | append_singleton since use ih =>
    obtain ⟨place?, htracks⟩ := ih h.of_append
    have hslot := htracks.act_of_not_provides fun value => h since use [] value rfl
    obtain ⟨-, place?, value?, hnext, -, -⟩ := sees_reached hfilled (since ++ [use])
    rw [reached_append] at hnext ⊢
    cases hnext.slot.symm.trans hslot
    exact ⟨place?, hnext⟩

/-- The read is queued until a dispatch is attempted. -/
theorem queued_foldl_step (signals : List Signal) (outlook : Outlook) :
    (signals.foldl Outlook.step outlook).queued =
      (outlook.queued && !signals.contains .attempted) := by
  induction signals generalizing outlook with
  | nil => exact (Bool.and_true _).symm
  | cons signal rest ih =>
    rw [List.foldl_cons, ih, List.contains_cons]
    cases signal with
    | attempted => exact (Bool.and_false _).symm
    | _ => rfl

theorem contains_attempted (handle : Handle) (since : List Use) :
    (since.filterMap (Use.signal? handle)).contains .attempted = since.any Use.isDispatch := by
  have hattempted : ∀ use : Use, use.signal? handle = some .attempted ↔ use.isDispatch = true := by
    intro use
    rcases use with operation | _
    · cases operation with
      | fill other value =>
        by_cases hindex : other.index = handle.index <;> simp [Use.signal?, Use.isDispatch, hindex,
          Operation.isDispatch]
      | _ => simp [Use.signal?, Use.isDispatch, Operation.isDispatch]
    · simp [Use.signal?, Use.isDispatch]
  rw [Bool.eq_iff_iff, List.contains_iff_mem, List.mem_filterMap, List.any_eq_true]
  simp only [hattempted]

/-- Any history decides the life of a handle in the same way, provided that the register was not
among those left unfilled when it was read. -/
theorem life_of_handle (before : List Use) {path : String}
    (hfilled : path ∉ (ofUses before).unfilled) : Life before path := by
  refine ⟨?waits, ?lasts, ?carried, ?dropped, ?new, ?unique, ?alone⟩
  case waits =>
    intro since h
    obtain ⟨place?, htracks⟩ := tracks_of_unprovided hfilled h
    exact htracks.value_eq
  case lasts =>
    intro first use value rest h hprovides
    obtain ⟨place?, htracks⟩ := tracks_of_unprovided hfilled h
    have hslot := slots_foldl_act_of_some (htracks.act_of_provides hprovides) rest
    rw [reached_append, List.foldl_cons, Bus.value, hslot]
    rfl
  case carried =>
    intro first time next hnone hdispatch
    obtain ⟨-, place?, value?, htracks, hqueued, -⟩ := sees_reached hfilled first
    have hany : first.any Use.isDispatch = false :=
      List.any_eq_false.mpr fun use hmem => by rw [hnone use hmem]; exact Bool.false_ne_true
    rw [queued_foldl_step, contains_attempted, hany] at hqueued
    obtain ⟨place, rfl⟩ := Option.isSome_iff_exists.mp hqueued
    obtain ⟨value, hjournal, -⟩ := htracks.flush_of_queued time
    refine ⟨value, .dispatch ((htracks.queue place _).mpr ⟨rfl, rfl⟩) hdispatch ?_⟩
    rw [eq_of_dispatch_ok hdispatch]
    exact hjournal
  case dropped =>
    rintro since time hcase
    obtain ⟨-, place?, value?, htracks, hqueued, -⟩ := sees_reached hfilled since
    rcases htracks.dispatch_cases time with ⟨-, hnext⟩ | ⟨-, hplace, value, hprovides, -⟩
    · rw [hnext.value_eq, htracks.value_eq]
    · rcases hcase with hfailed | ⟨use, hmem, hkind⟩
      · cases hprovides with
        | fill filling => cases filling
        | dispatch queued success journaled => exact absurd (congrArg Prod.fst success) hfailed
      · rw [queued_foldl_step, contains_attempted, List.any_eq_true.mpr ⟨use, hmem, hkind⟩,
          Bool.not_true, Bool.and_false] at hqueued
        exact absurd (hplace.symm.trans hqueued) Bool.noConfusion
  case new =>
    rintro first other rest rfl
    have hlt := index_read_lt (ofUses first) other rest
    refine Nat.ne_of_lt (Nat.lt_of_lt_of_eq hlt ?_)
    rw [handed, ofUses, ofUses, List.foldl_append, List.foldl_cons]
    rfl
  case unique =>
    exact fun first _ => Nat.ne_of_gt (index_read_lt (ofUses before) path first)
  case alone =>
    intro before' path' since since' hfilled' hdue hsignals
    obtain ⟨-, place?, value?, htracks, -, hready⟩ := sees_reached hfilled since
    obtain ⟨-, place?', value?', htracks', -, hready'⟩ := sees_reached hfilled' since'
    rw [htracks.isReady_eq, htracks'.isReady_eq, hready, hready', hsignals, Outlook.new, hdue]
    rfl

/-- The register was read before, and has been left unfilled in the meantime. -/
def reread : List Use :=
  [.call (.scriptReads "a" [4, 5]), .call (.leaveUnfilled ["a"]), .call (.read "a"),
    .call (.leaveUnfilled ["b"]), .call (.failAfter 1 "down")]

theorem life_of_handle_reread : "a" ∉ (ofUses reread).unfilled ∧ Life reread "a" :=
  ⟨by decide, life_of_handle reread (by decide)⟩

/-- The earlier read takes the first value of the script, and what is filled in later is too late. -/
example : (reached reread "a" [.call (.dispatch 0), .call (.fill (handed reread "a") 9)]).value
    (handed reread "a") = .ok 5 := by decide

end Bus

end OpticalTiming
