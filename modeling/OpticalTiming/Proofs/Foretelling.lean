import OpticalTiming.Proofs.Excerpt
import OpticalTiming.Proofs.Replaying

/-!
# What a run finds that only reads

As long as nothing is written, a device cannot react, so that it is settled beforehand what the
reads of a register find: the values of its script one after the other, and its content from then
on. `Bus.upcoming` is this sequence.

`Bus.Foretold` says that a list of reads found what was upcoming. One commit foretells its read
(`foretold_commit`), and reads in a row are foretold together (`Foretold.append`), so whatever a
procedure does, its reads are foretold if it commits nothing else (`Procedure.foretold_run`).
-/

namespace OpticalTiming

open Procedure

namespace Bus

variable {bus next : Bus} {accesses : List Access}

/-- What the reads of a register find one after the other while nothing is written. -/
def upcoming (bus : Bus) (path : String) (index : Nat) : UInt32 :=
  (bus.script path)[index]?.getD (RegisterFile.read bus.registers path)

/-- The next read finds the first of these values. -/
theorem nextRead_eq_upcoming (bus : Bus) (path : String) :
    bus.nextRead path = bus.upcoming path 0 := by
  unfold nextRead upcoming
  cases bus.script path <;> rfl

/-- What is known of a register space after reads that found what was upcoming: every register has
kept its content, and every read has used up a value of its script. -/
structure Foretold (bus next : Bus) (accesses : List Access) : Prop where
  registers : next.registers = bus.registers
  script : ∀ path, next.script path =
    (bus.script path).drop (Access.readsOf path accesses).length
  values : ∀ path index a, (Access.readsOf path accesses)[index]? = some a →
    a.value = bus.upcoming path index

theorem Foretold.refl (bus : Bus) : Foretold bus bus [] where
  registers := rfl
  script _ := rfl
  values _ _ _ h := by cases h

/-- After some reads the later values of a register are upcoming. -/
theorem Foretold.upcoming (h : Foretold bus next accesses) (path : String) (index : Nat) :
    next.upcoming path index =
      bus.upcoming path ((Access.readsOf path accesses).length + index) := by
  unfold Bus.upcoming
  rw [h.registers, h.script, List.getElem?_drop]

/-- Reads in a row are foretold together. -/
theorem Foretold.append {last : Bus} {more : List Access} (h : Foretold bus next accesses)
    (hmore : Foretold next last more) : Foretold bus last (accesses ++ more) where
  registers := hmore.registers.trans h.registers
  script path := by
    rw [hmore.script, h.script, List.drop_drop, Access.readsOf_append, List.length_append]
  values path index a ha := by
    rw [Access.readsOf_append] at ha
    rcases Nat.lt_or_ge index (Access.readsOf path accesses).length with hlt | hle
    · rw [List.getElem?_append_left hlt] at ha
      exact h.values path index a ha
    · rw [List.getElem?_append_right hle] at ha
      rw [hmore.values path _ a ha, h.upcoming, Nat.add_sub_cancel' hle]

/-- The values that the reads of a register found. -/
theorem Foretold.map_value (h : Foretold bus next accesses) (path : String) :
    (Access.readsOf path accesses).map Access.value =
      (List.range (Access.readsOf path accesses).length).map (bus.upcoming path) := by
  refine List.ext_getElem (by simp) fun index hindex _ => ?_
  have hlt : index < (Access.readsOf path accesses).length := by simpa using hindex
  rw [List.getElem_map, List.getElem_map, List.getElem_range]
  exact h.values path index _ (List.getElem?_eq_getElem hlt)

/-- A single read is foretold. -/
theorem foretold_commitRead (bus : Bus) (time : Nat) (path : String) (slot : Option Nat) :
    Foretold bus (bus.commitRead time path slot) [bus.entry time (.read path slot)] where
  registers := rfl
  script key := by
    rw [script_commitRead, Access.readsOf_cons, Access.readsOf_nil]
    by_cases hkey : key = path
    · rw [if_pos hkey, if_pos ⟨rfl, hkey.symm⟩, hkey]
      exact List.drop_one.symm
    · rw [if_neg hkey, if_neg fun hread => hkey hread.2.symm]
      rfl
  values key index a ha := by
    rw [Access.readsOf_cons, Access.readsOf_nil] at ha
    split at ha
    case isTrue hread =>
      cases index with
      | zero =>
        cases ha
        rw [← hread.2]
        exact bus.nextRead_eq_upcoming path
      | succ index => cases ha
    case isFalse => cases ha

/-- What is committed from a queue is foretold if it has no writes. -/
theorem foretold_foldl_commit {time : Nat} (queue : List Queued)
    (h : ∀ a ∈ entries time bus queue, a.kind = .read) :
    Foretold bus (queue.foldl (commit time) bus) (entries time bus queue) := by
  induction queue generalizing bus with
  | nil => exact .refl bus
  | cons queued rest ih =>
    have hrest := ih fun a ha => h a (List.mem_cons_of_mem _ ha)
    cases queued with
    | read path slot => exact (bus.foretold_commitRead time path slot).append hrest
    | write path value => cases h _ List.mem_cons_self

end Bus

/-- What a step of a bench reads is foretold if it writes nothing. -/
def Bench.Foretells (bench after : Bench) : Prop :=
  ∃ accesses, after.bus.journal = bench.bus.journal ++ accesses ∧
    ((∀ a ∈ accesses, a.kind = .read) → bench.bus.Foretold after.bus accesses)

namespace Bench.Foretells

theorem of_same {bench after : Bench} (hjournal : after.bus.journal = bench.bus.journal)
    (hregisters : after.bus.registers = bench.bus.registers)
    (hscripts : after.bus.scripts = bench.bus.scripts) : bench.Foretells after := by
  refine ⟨[], by rw [hjournal, List.append_nil], fun _ => ⟨hregisters, fun path => ?_, ?_⟩⟩
  · show (after.bus.scripts.get? path).getD [] = (bench.bus.scripts.get? path).getD []
    rw [hscripts]
  · rintro path index a ⟨⟩

theorem trans {first second third : Bench} (h : first.Foretells second)
    (h' : second.Foretells third) : first.Foretells third := by
  obtain ⟨accesses, hjournal, hforetold⟩ := h
  obtain ⟨more, hjournal', hforetold'⟩ := h'
  refine ⟨accesses ++ more, by rw [hjournal', hjournal, List.append_assoc], fun hreads => ?_⟩
  exact (hforetold fun a ha => hreads a (List.mem_append_left _ ha)).append
    (hforetold' fun a ha => hreads a (List.mem_append_right _ ha))

theorem dispatched (bench : Bench) : bench.Foretells bench.dispatched := by
  refine ⟨_, bench.journal_dispatched, fun hreads => ?_⟩
  obtain ⟨hregisters, hscript, hvalues⟩ := Bus.foretold_foldl_commit bench.bus.queue hreads
  exact ⟨hregisters, hscript, hvalues⟩

theorem answer (bench : Bench) (request : Request) :
    bench.Foretells (bench.answer request).2 := by
  cases request with
  | dispatch =>
    show bench.Foretells bench.dispatch.2
    rcases bench.dispatch_cases with ⟨message, -, h⟩ | ⟨-, h⟩ <;> rw [h]
    · exact of_same rfl rfl rfl
    · exact dispatched bench
  | wait ms =>
    show bench.Foretells (bench.wait ms).2
    have hbus := bench.bus_wait ms
    exact of_same (by rw [hbus]) (by rw [hbus]) (by rw [hbus])
  | _ => exact of_same rfl rfl rfl

end Bench.Foretells

namespace Procedure

variable {α : Type}

/-- What a procedure reads is foretold if it writes nothing. -/
theorem foretold_run {p : Procedure α} {bench : Bench}
    (h : ∀ a ∈ p.commits bench, a.kind = .read) :
    bench.bus.Foretold (p.run bench).2.bus (p.commits bench) := by
  obtain ⟨accesses, hjournal, hforetold⟩ : bench.Foretells (p.run bench).2 :=
    run_rel (fun _ => .of_same rfl rfl rfl) .trans .answer p bench
  have haccesses : p.commits bench = accesses := by
    rw [commits, Bus.journalFrom, hjournal, List.drop_left]
  rw [haccesses] at h ⊢
  exact hforetold h

end Procedure

end OpticalTiming
