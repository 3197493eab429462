import Mathlib.Data.List.Induction
import Mathlib.Data.List.Sort
import OpticalTiming.Design.Registry
import OpticalTiming.Proofs.ByteOrder

/-!
# The life of a registry

A registry starts empty or with the reference families and is then called in any order: to register
a builder, to list its families, to show itself and to build. The registrations that a call adds
are all that later answers depend on. `Holds` ties a registry to the registrations behind it, the
ones it started with included: it has a builder for every registered name, and it is the one that was
`Latest`. `Holds.register` says that one more registration keeps this, `holds_run` that every run of
calls does.

From there come the answers (`Holds.serves`): the families are listed by the bytes of their names,
each one once, and a configuration goes to the latest builder of its family. `keepsRegistrations` is
the result for every start and every run of calls.
-/

namespace OpticalTiming.Registry

/-! ### Calls -/

/-- The name of a family with the way in which its designs are built. -/
abbrev Registration := String × Builder

/-- A call of a registry. -/
inductive Operation where
  | register (family : String) (builder : Builder)
  | families
  | summary
  | build (config : DesignConfig)

/-- What a call answers. -/
inductive Answer where
  | registered
  | names (families : List String)
  | text (summary : String)
  | design (result : Except Error Design)

/-- The answer to a call, and the registry after it. -/
def serve (registry : Registry) : Operation → Answer × Registry
  | .register family builder => (.registered, registry.register family builder)
  | .families => (.names registry.families, registry)
  | .summary => (.text registry.summary, registry)
  | .build config => (.design (registry.build config), registry)

/-- The answers to a run of calls, and the registry after it. -/
def run (registry : Registry) : List Operation → List Answer × Registry
  | [] => ([], registry)
  | operation :: rest =>
    let (answer, next) := registry.serve operation
    let (answers, last) := next.run rest
    (answer :: answers, last)

/-- The registration that a call asks for, if it asks for one. -/
def Operation.registration? : Operation → Option Registration
  | .register family builder => some (family, builder)
  | _ => none

/-- The registrations that a run of calls asks for, in order. -/
def registrations (operations : List Operation) : List Registration :=
  operations.filterMap Operation.registration?

/-- How a registry can start. -/
inductive Start where
  | empty
  | standard

/-- The registry before the first call. -/
def Start.registry : Start → Registry
  | .empty => Registry.empty
  | .standard => Registry.standard

/-- The registrations behind the registry before the first call. -/
def Start.registrations : Start → List Registration
  | .empty => []
  | .standard => [("master", .plain), ("ouroboros", .returnPath), ("master-mux", .fanOut)]

/-! ### What a registry has to answer -/

/-- The builder that was registered last for a family. -/
def Latest (registrations : List Registration) (family : String) (builder : Builder) : Prop :=
  ∃ earlier later, registrations = earlier ++ (family, builder) :: later ∧
    ∀ registration ∈ later, registration.1 ≠ family

/-- A registry answers as the registrations behind it ask for. -/
structure Serves (registry : Registry) (registrations : List Registration) : Prop where
  /-- The families are listed by the bytes of their names, in strictly ascending order. -/
  ascending : registry.families.Pairwise fun first second => Text.bytes first < Text.bytes second
  /-- They are the registered ones. -/
  mem_families_iff : ∀ name,
    name ∈ registry.families ↔ ∃ builder, (name, builder) ∈ registrations
  /-- Each of them has one builder that was registered last. -/
  existsUnique_latest : ∀ name ∈ registry.families, ∃! builder, Latest registrations name builder
  /-- A checked configuration gets what the builder registered last for its family makes of it. -/
  build_eq : ∀ config, config.check = .ok () → ∀ builder,
    Latest registrations config.family builder → registry.build config = builder config
  /-- Its family is unknown just if it is not listed, unless the builder itself says so. -/
  unknown_iff : ∀ config, config.check = .ok () →
    (registry.build config = .error (.unknownDesign config.family) ↔
      config.family ∉ registry.families ∨
      ∃ builder, Latest registrations config.family builder ∧
        builder config = .error (.unknownDesign config.family))

/-- What a registry has to do over a run of calls. -/
structure KeepsRegistrations (start : Start) (operations : List Operation) : Prop where
  /-- After any number of calls it answers as the registrations up to there ask for. -/
  serves : ∀ count, (start.registry.run (operations.take count)).2.Serves
    (start.registrations ++ registrations (operations.take count))
  /-- A call is answered by the registry that the calls before it have left. -/
  answers : ∀ count operation, operations[count]? = some operation →
    (start.registry.run operations).1[count]? =
      some ((start.registry.run (operations.take count)).2.serve operation).1
  /-- Calls that register nothing leave the registry as it is. -/
  unchanged : ∀ reading, registrations reading = [] →
    (start.registry.run (operations ++ reading)).2 = (start.registry.run operations).2
  /-- Any other run of calls that registers the same names leads to the same families. -/
  unordered : ∀ others,
    (∀ name, (∃ builder, (name, builder) ∈ start.registrations ++ registrations others) ↔
      ∃ builder, (name, builder) ∈ start.registrations ++ registrations operations) →
    (start.registry.run others).2.families = (start.registry.run operations).2.families

/-! ### The latest registration -/

section Latest

variable {entries : List Registration} {family name : String} {builder latest : Builder}

/-- One more registration is the latest of its own family and of no other. -/
theorem latest_append_iff :
    Latest (entries ++ [(family, builder)]) name latest ↔
      (name = family ∧ latest = builder) ∨ (name ≠ family ∧ Latest entries name latest) := by
  constructor
  · rintro ⟨earlier, later, hsplit, hlater⟩
    -- The latest registration is the new one just if nothing comes after it.
    rcases List.eq_nil_or_concat later with rfl | ⟨front, last, rfl⟩
    · obtain ⟨-, hlast⟩ := List.append_inj' hsplit rfl
      cases hlast
      exact .inl ⟨rfl, rfl⟩
    · rw [List.concat_eq_append, ← List.cons_append, ← List.append_assoc] at hsplit
      obtain ⟨hentries, hlast⟩ := List.append_inj' hsplit rfl
      cases hlast
      rw [List.concat_eq_append] at hlater
      refine .inr ⟨fun hname => ?_, earlier, front, hentries, fun entry hmem => ?_⟩
      · exact hlater (family, builder) (List.mem_append_right _ (List.mem_singleton_self _))
          hname.symm
      · exact hlater entry (List.mem_append_left _ hmem)
  · rintro (⟨rfl, rfl⟩ | ⟨hname, earlier, later, rfl, hlater⟩)
    · exact ⟨entries, [], rfl, by simp⟩
    · refine ⟨earlier, later ++ [(family, builder)], by simp, fun entry hmem => ?_⟩
      rcases List.mem_append.mp hmem with hfront | hlast
      · exact hlater entry hfront
      · rw [List.mem_singleton.mp hlast]
        exact Ne.symm hname

theorem Latest.mem (h : Latest entries name latest) : (name, latest) ∈ entries := by
  obtain ⟨earlier, later, rfl, -⟩ := h
  exact List.mem_append_right _ List.mem_cons_self

/-- A registered family has a latest registration. -/
theorem exists_latest_of_mem (h : (name, builder) ∈ entries) :
    ∃ latest, Latest entries name latest := by
  induction entries using List.reverseRecOn with
  | nil => exact absurd h List.not_mem_nil
  | append_singleton entries entry ih =>
    obtain ⟨family, last⟩ := entry
    by_cases hname : name = family
    · exact ⟨last, latest_append_iff.mpr (.inl ⟨hname, rfl⟩)⟩
    · have hmem : (name, builder) ∈ entries := by
        refine (List.mem_append.mp h).resolve_right fun hlast => hname ?_
        exact congrArg Prod.fst (List.mem_singleton.mp hlast)
      obtain ⟨latest, hlatest⟩ := ih hmem
      exact ⟨latest, latest_append_iff.mpr (.inr ⟨hname, hlatest⟩)⟩

end Latest

/-! ### The registrations behind a registry -/

/-- A registry has a builder just for the registered names, and for each of them the latest one. -/
structure Holds (registry : Registry) (entries : List Registration) : Prop where
  mem_names_iff : ∀ name,
    name ∈ registry.builders.names ↔ ∃ builder, (name, builder) ∈ entries
  get?_eq_some_iff : ∀ name builder,
    registry.builders.get? name = some builder ↔ Latest entries name builder

variable {registry : Registry} {entries : List Registration} {config : DesignConfig}

theorem holds_empty : Holds .empty [] where
  mem_names_iff name := by simp [Registry.empty, NameMap.empty, NameMap.names]
  get?_eq_some_iff name builder := by simp [Registry.empty, Latest]

/-- Registering a builder adds its registration to those behind the registry. -/
theorem Holds.register (h : Holds registry entries) (family : String) (builder : Builder) :
    Holds (registry.register family builder) (entries ++ [(family, builder)]) where
  mem_names_iff name := by
    unfold Registry.register
    rw [NameMap.mem_names_set, h.mem_names_iff]
    constructor
    · rintro (rfl | ⟨earlier, hmem⟩)
      · exact ⟨builder, List.mem_append_right _ (List.mem_singleton_self _)⟩
      · exact ⟨earlier, List.mem_append_left _ hmem⟩
    · rintro ⟨found, hmem⟩
      rcases List.mem_append.mp hmem with hearlier | hlast
      · exact .inr ⟨found, hearlier⟩
      · cases List.mem_singleton.mp hlast
        exact .inl rfl
  get?_eq_some_iff name latest := by
    unfold Registry.register
    rw [NameMap.get?_set, latest_append_iff, ← h.get?_eq_some_iff]
    by_cases hname : name = family
    · simp [hname, eq_comm]
    · simp [hname]

/-- The registrations behind a registry before the first call. -/
theorem Start.holds (start : Start) : Holds start.registry start.registrations := by
  cases start with
  | empty => exact holds_empty
  | standard =>
    exact ((holds_empty.register "master" .plain).register "ouroboros" .returnPath).register
      "master-mux" .fanOut

/-- One call keeps a registry to the registrations behind it. -/
theorem Holds.serve (h : Holds registry entries) (operation : Operation) :
    Holds (registry.serve operation).2 (entries ++ registrations [operation]) := by
  cases operation with
  | register family builder => exact h.register family builder
  | families | summary | build config => exact (List.append_nil entries).symm ▸ h

/-- A run of calls keeps a registry to the registrations behind it. -/
theorem holds_run (operations : List Operation) (h : Holds registry entries) :
    Holds (registry.run operations).2 (entries ++ registrations operations) := by
  induction operations generalizing registry entries with
  | nil => exact (List.append_nil entries).symm ▸ h
  | cons operation rest ih =>
    have hrest := ih (h.serve operation)
    rwa [List.append_assoc, registrations, registrations, ← List.filterMap_append] at hrest

/-! ### The answers -/

theorem mem_families {name : String} :
    name ∈ registry.families ↔ name ∈ registry.builders.names := List.mem_mergeSort

/-- The families stand in ascending order, none of them twice. -/
theorem pairwise_families (registry : Registry) : registry.families.Pairwise (· < ·) := by
  have hsorted : registry.families.Pairwise (· ≤ ·) := by
    have hle := @List.pairwise_mergeSort String (fun a b => decide (a ≤ b))
      (fun a b c hab hbc => decide_eq_true ((of_decide_eq_true hab).trans (of_decide_eq_true hbc)))
      (fun a b => by simpa using le_total a b) registry.builders.names
    exact hle.imp of_decide_eq_true
  have hnodup : registry.families.Nodup :=
    (List.mergeSort_perm _ _).nodup_iff.mpr registry.builders.nodup
  exact hsorted.imp₂ (fun a b hle hne => lt_of_le_of_ne hle hne) hnodup

/-- A checked configuration is built by the builder of its family. -/
theorem build_of_check (h : config.check = .ok ()) :
    registry.build config =
      match registry.builders.get? config.family with
      | some builder => builder config
      | none => .error (.unknownDesign config.family) := by
  unfold build
  rw [h]
  rfl

/-- No builder is found just for the families that are not listed. -/
theorem Holds.get?_eq_none_iff (h : Holds registry entries) {name : String} :
    registry.builders.get? name = none ↔ name ∉ registry.families := by
  rw [mem_families, h.mem_names_iff]
  constructor
  · rintro hnone ⟨builder, hmem⟩
    obtain ⟨latest, hlatest⟩ := exists_latest_of_mem hmem
    rw [(h.get?_eq_some_iff name latest).mpr hlatest] at hnone
    cases hnone
  · intro hnotMem
    refine Option.eq_none_iff_forall_ne_some.mpr fun builder hsome => hnotMem ⟨builder, ?_⟩
    exact ((h.get?_eq_some_iff name builder).mp hsome).mem

/-- A registry answers as the registrations behind it ask for. -/
theorem Holds.serves (h : Holds registry entries) : registry.Serves entries where
  ascending := (pairwise_families registry).imp Text.bytes_lt_iff.mpr
  mem_families_iff name := mem_families.trans (h.mem_names_iff name)
  existsUnique_latest name hname := by
    obtain ⟨builder, hmem⟩ := (h.mem_names_iff name).mp (mem_families.mp hname)
    obtain ⟨latest, hlatest⟩ := exists_latest_of_mem hmem
    refine ⟨latest, hlatest, fun other hother => ?_⟩
    have hsome := (h.get?_eq_some_iff name latest).mpr hlatest
    rw [(h.get?_eq_some_iff name other).mpr hother] at hsome
    exact Option.some.inj hsome
  build_eq config hcheck builder hlatest := by
    rw [build_of_check hcheck, (h.get?_eq_some_iff config.family builder).mpr hlatest]
  unknown_iff config hcheck := by
    rw [build_of_check hcheck, ← h.get?_eq_none_iff]
    simp only [← h.get?_eq_some_iff]
    cases registry.builders.get? config.family with
    | none => simp
    | some builder => simp

/-! ### Runs -/

theorem snd_run_append (registry : Registry) (first second : List Operation) :
    (registry.run (first ++ second)).2 = ((registry.run first).2.run second).2 := by
  induction first generalizing registry with
  | nil => rfl
  | cons operation rest ih => exact ih (registry.serve operation).2

/-- Calls that register nothing leave the registry as it is. -/
theorem snd_run_of_registrations_nil {operations : List Operation}
    (h : registrations operations = []) : (registry.run operations).2 = registry := by
  induction operations with
  | nil => rfl
  | cons operation rest ih =>
    have hnone : operation.registration? = none ∧ registrations rest = [] := by
      simpa [registrations] using h
    cases operation with
    | register family builder => cases hnone.1
    | families | summary | build config => exact ih hnone.2

/-- A call is answered by the registry that the calls before it have left. -/
theorem getElem?_fst_run (registry : Registry) (operations : List Operation) (count : Nat) :
    (registry.run operations).1[count]? = operations[count]?.map fun operation =>
      ((registry.run (operations.take count)).2.serve operation).1 := by
  induction operations generalizing registry count with
  | nil => rfl
  | cons operation rest ih =>
    cases count with
    | zero => rfl
    | succ count => exact ih (registry.serve operation).2 count

/-- Two registries with the same names behind them list the same families. -/
theorem Holds.families_eq {other : Registry} {others : List Registration}
    (h : Holds registry entries) (hother : Holds other others)
    (hnames : ∀ name, (∃ builder, (name, builder) ∈ others) ↔ ∃ builder, (name, builder) ∈ entries) :
    other.families = registry.families := by
  refine (pairwise_families other).eq_of_mem_iff (pairwise_families registry) fun name => ?_
  rw [mem_families, mem_families, hother.mem_names_iff, h.mem_names_iff, hnames]

/-- A registry keeps to its registrations: it lists their names in ascending order, each of them
once and in whatever order they came, and builds with the latest builder of a family. Only a
registration changes any of this. -/
theorem keepsRegistrations (start : Start) (operations : List Operation) :
    KeepsRegistrations start operations where
  serves count := (holds_run (operations.take count) start.holds).serves
  answers count operation hoperation := by
    rw [getElem?_fst_run, hoperation]
    rfl
  unchanged reading hreading := by
    rw [snd_run_append, snd_run_of_registrations_nil hreading]
  unordered others hnames :=
    (holds_run operations start.holds).families_eq (holds_run others start.holds) hnames

/-- A reference family that is registered again is built in the new way. -/
example :
    ((Registry.standard.run [.register "master" .fanOut]).2.build .standard).map
      (fun design => design.mux.isSome) = .ok true := by
  rfl

end OpticalTiming.Registry
