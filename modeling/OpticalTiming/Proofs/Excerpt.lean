import OpticalTiming.Proofs.Footprint

/-!
# What accesses say of one register

`writesTo` and `readsOf` pick the accesses of one register from a list of accesses. Both pass
through appending, and a procedure whose footprint does not have the register adds nothing to them
(`writesTo_commits_of_within`).

`Guarded` is the form of all rules about order: every access of a certain kind finds what it needs
among the accesses before it. `guarded_append` and `guarded_cons` take a list apart.
-/

namespace OpticalTiming.Access

/-- The writes to a register, in order. -/
def writesTo (path : String) (accesses : List Access) : List Access :=
  accesses.filter fun a => a.IsWriteTo path

/-- The reads of a register, in order. -/
def readsOf (path : String) (accesses : List Access) : List Access :=
  accesses.filter fun a => a.IsReadOf path

section

variable {path : String} {accesses : List Access} {number time : Nat}

@[simp]
theorem writesTo_nil (path : String) : writesTo path [] = [] := rfl

@[simp]
theorem readsOf_nil (path : String) : readsOf path [] = [] := rfl

@[simp]
theorem writesTo_append (path : String) (first second : List Access) :
    writesTo path (first ++ second) = writesTo path first ++ writesTo path second :=
  List.filter_append ..

@[simp]
theorem readsOf_append (path : String) (first second : List Access) :
    readsOf path (first ++ second) = readsOf path first ++ readsOf path second :=
  List.filter_append ..

theorem writesTo_cons (path : String) (a : Access) (rest : List Access) :
    writesTo path (a :: rest) =
      if a.IsWriteTo path then a :: writesTo path rest else writesTo path rest := by
  simp only [writesTo, List.filter_cons, decide_eq_true_eq]

theorem readsOf_cons (path : String) (a : Access) (rest : List Access) :
    readsOf path (a :: rest) =
      if a.IsReadOf path then a :: readsOf path rest else readsOf path rest := by
  simp only [readsOf, List.filter_cons, decide_eq_true_eq]

theorem writesTo_eq_nil (h : ∀ a ∈ accesses, ¬ a.IsWriteTo path) : writesTo path accesses = [] :=
  List.filter_eq_nil_iff.mpr fun a ha hwrite => h a ha (of_decide_eq_true hwrite)

theorem readsOf_eq_nil (h : ∀ a ∈ accesses, ¬ a.IsReadOf path) : readsOf path accesses = [] :=
  List.filter_eq_nil_iff.mpr fun a ha hread => h a ha (of_decide_eq_true hread)

theorem isWriteTo_written {pair : String × UInt32} :
    (written number time pair).IsWriteTo path ↔ pair.1 = path := by
  simp only [IsWriteTo, written, true_and]

theorem not_isReadOf_written {pair : String × UInt32} :
    ¬ (written number time pair).IsReadOf path := by
  rintro ⟨⟨⟩, -⟩

theorem writesTo_written (pairs : List (String × UInt32)) :
    writesTo path (pairs.map (written number time)) =
      (pairs.filter fun pair => pair.1 = path).map (written number time) := by
  induction pairs with
  | nil => rfl
  | cons pair rest ih =>
    rw [List.map_cons, writesTo_cons, ih, List.filter_cons]
    simp only [isWriteTo_written, decide_eq_true_eq]
    split <;> rfl

theorem writesTo_written_self (path : String) (value : UInt32) :
    writesTo path [written number time (path, value)] = [written number time (path, value)] := by
  have hself : (written number time (path, value)).IsWriteTo path := isWriteTo_written.mpr rfl
  rw [writesTo_cons, if_pos hself, writesTo_nil]

theorem readsOf_written (pairs : List (String × UInt32)) :
    readsOf path (pairs.map (written number time)) = [] := by
  refine readsOf_eq_nil fun a ha => ?_
  obtain ⟨pair, -, rfl⟩ := List.mem_map.mp ha
  exact not_isReadOf_written

end

/-! ### Stretches -/

/-- What follows the first write of a value to a register, up to the next write to the register. -/
def since (path : String) (value : UInt32) (accesses : List Access) : List Access :=
  ((accesses.dropWhile fun a => ¬ (a.IsWriteTo path ∧ a.value = value)).drop 1).takeWhile
    fun a => ¬ a.IsWriteTo path

theorem since_eq {path : String} {value : UInt32} {before middle rest : List Access} {a : Access}
    (hbefore : ∀ b ∈ before, ¬ (b.IsWriteTo path ∧ b.value = value))
    (ha : a.IsWriteTo path ∧ a.value = value) (hmiddle : ∀ b ∈ middle, ¬ b.IsWriteTo path)
    (hrest : ∀ b, rest.head? = some b → b.IsWriteTo path) :
    since path value (before ++ a :: (middle ++ rest)) = middle := by
  have hdrop : ∀ b ∈ before, decide (¬ (b.IsWriteTo path ∧ b.value = value)) = true :=
    fun b hb => decide_eq_true (hbefore b hb)
  have htake : ∀ b ∈ middle, decide (¬ b.IsWriteTo path) = true :=
    fun b hb => decide_eq_true (hmiddle b hb)
  have hend : rest.takeWhile (fun b => decide (¬ b.IsWriteTo path)) = [] := by
    cases rest with
    | nil => rfl
    | cons b rest =>
      have hb : decide (¬ b.IsWriteTo path) = false :=
        decide_eq_false fun hnot => hnot (hrest b rfl)
      rw [List.takeWhile_cons, hb]
      rfl
  have hfirst : decide (¬ (a.IsWriteTo path ∧ a.value = value)) = false :=
    decide_eq_false fun hnot => hnot ha
  unfold since
  rw [List.dropWhile_append_of_pos hdrop, List.dropWhile_cons, hfirst]
  show ((middle ++ rest).takeWhile fun b => decide (¬ b.IsWriteTo path)) = middle
  rw [List.takeWhile_append_of_pos htake, hend, List.append_nil]

/-! ### Rules about order -/

/-- Whether every access of a kind finds what it needs among the accesses before it. -/
def Guarded (trigger : Access → Prop) (guard : List Access → Access → Prop)
    (accesses : List Access) : Prop :=
  ∀ before a after, accesses = before ++ a :: after → trigger a → guard before a

section

variable {trigger : Access → Prop} {guard : List Access → Access → Prop}
  {accesses first second : List Access}

theorem guarded_of_forall_not (h : ∀ a ∈ accesses, ¬ trigger a) :
    Guarded trigger guard accesses := by
  rintro before a after rfl ha
  exact absurd ha (h a (List.mem_append_right _ List.mem_cons_self))

theorem guarded_cons {a : Access} {rest : List Access} :
    Guarded trigger guard (a :: rest) ↔
      (trigger a → guard [] a) ∧ Guarded trigger (fun before => guard (a :: before)) rest := by
  constructor
  · intro h
    refine ⟨h [] a rest rfl, ?_⟩
    rintro before b after rfl hb
    exact h (a :: before) b after rfl hb
  · rintro ⟨hhead, hrest⟩ before b after heq hb
    cases before with
    | nil =>
      obtain ⟨rfl, rfl⟩ := List.cons.inj heq
      exact hhead hb
    | cons c before =>
      obtain ⟨rfl, rfl⟩ := List.cons.inj heq
      exact hrest before b after rfl hb

theorem guarded_append :
    Guarded trigger guard (first ++ second) ↔
      Guarded trigger guard first ∧
        Guarded trigger (fun before => guard (first ++ before)) second := by
  induction first generalizing guard with
  | nil =>
    refine ⟨fun h => ⟨guarded_of_forall_not fun _ ha => (by cases ha), h⟩, fun h => h.2⟩
  | cons a rest ih =>
    rw [List.cons_append, guarded_cons, ih, guarded_cons, and_assoc]
    rfl

/-- Accesses of other kinds may follow. -/
theorem Guarded.append (h : Guarded trigger guard first) (hnot : ∀ a ∈ second, ¬ trigger a) :
    Guarded trigger guard (first ++ second) :=
  guarded_append.mpr ⟨h, guarded_of_forall_not hnot⟩

end

end OpticalTiming.Access

namespace OpticalTiming.Procedure

variable {α : Type} {footprint : Footprint} {p : Procedure α} {bench : Bench} {path : String}

theorem writesTo_commits_of_within (hp : p.Within footprint) (hqueue : bench.bus.queue = [])
    (hpath : path ∉ footprint.writes) : Access.writesTo path (p.commits bench) = [] :=
  Access.writesTo_eq_nil fun _ ha => not_isWriteTo_of_within hp hqueue hpath ha

end OpticalTiming.Procedure
