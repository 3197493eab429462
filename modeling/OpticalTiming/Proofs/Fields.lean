import Mathlib.Data.List.Forall2
import Mathlib.Data.List.Perm.Basic
import OpticalTiming.Json.Decode

/-!
# Records and their fields

A record is read by the names of its fields alone. `FormOf` lists the ways to write a record that
lacks some of its fields: an object, in any order and beside fields that nobody asks for, or an
array that ends early. `FormOf.hasFields` says that a reader finds the same fields in all of them;
from there on a reader of a record goes by `required?_of_lookup` and `optional?_of_lookup`.

Lists are read item by item: `mapM_eq_some_of_forall₂` and `mapM_eq_none_of_mem`.
-/

namespace OpticalTiming.Json

variable {α : Type} {fields read entries : List (String × Json)} {missing : List String}
  {json : Json} {name : String}

/-! ### Looking fields up -/

/-- The fields that are left when those with the given names are missing. -/
def without (missing : List String) (fields : List (String × Json)) : List (String × Json) :=
  fields.filter fun field => field.1 ∉ missing

theorem without_sublist : (without missing fields).Sublist fields := List.filter_sublist

theorem without_nil (fields : List (String × Json)) : without [] fields = fields :=
  List.filter_eq_self.mpr fun _ _ => by simp

theorem lookup_without (missing : List String) (fields : List (String × Json)) (name : String) :
    (without missing fields).lookup name =
      if name ∈ missing then none else fields.lookup name := by
  induction fields with
  | nil => simp [without]
  | cons field rest ih =>
    obtain ⟨key, value⟩ := field
    unfold without at ih ⊢
    by_cases hkey : key ∈ missing
    · -- The first field goes, and nobody who asks for it may find another one.
      rw [List.filter_cons_of_neg (by simpa using hkey), ih]
      by_cases hname : name = key
      · simp [hname, hkey]
      · rw [List.lookup_cons, beq_false_of_ne hname]
    · rw [List.filter_cons_of_pos (by simpa using hkey), List.lookup_cons, List.lookup_cons, ih]
      by_cases hname : name = key
      · simp [hname, hkey]
      · rw [beq_false_of_ne hname]

theorem lookup_eq_some_iff_mem (hnodup : (fields.map Prod.fst).Nodup) {value : Json} :
    fields.lookup name = some value ↔ (name, value) ∈ fields := by
  induction fields with
  | nil => simp
  | cons field rest ih =>
    obtain ⟨key, first⟩ := field
    rw [List.map_cons, List.nodup_cons] at hnodup
    by_cases hname : name = key
    · subst hname
      have hrest : (name, value) ∉ rest :=
        fun hmem => hnodup.1 (List.mem_map.mpr ⟨_, hmem, rfl⟩)
      simp [List.lookup_cons_self, hrest, eq_comm]
    · rw [List.lookup_cons, beq_false_of_ne hname, List.mem_cons, ih hnodup.2]
      simp [hname]

/-- Without repeated names the order of the fields does not matter. -/
theorem lookup_eq_of_perm (hnodup : (fields.map Prod.fst).Nodup) (h : read.Perm fields)
    (name : String) : read.lookup name = fields.lookup name := by
  have hread : (read.map Prod.fst).Nodup := (h.map Prod.fst).nodup_iff.mpr hnodup
  -- Both lookups are membership, and that is the same in both lists.
  ext value
  rw [lookup_eq_some_iff_mem hread, lookup_eq_some_iff_mem hnodup, h.mem_iff]

/-- The first fields are those that are left when the names of the others are missing. -/
theorem take_eq_without (hnodup : (fields.map Prod.fst).Nodup) (k : ℕ) :
    fields.take k = without ((fields.map Prod.fst).drop k) fields := by
  induction fields generalizing k with
  | nil => simp [without]
  | cons field rest ih =>
    rw [List.map_cons, List.nodup_cons] at hnodup
    cases k with
    | zero =>
      symm
      rw [List.take_zero, List.drop_zero, without, List.filter_eq_nil_iff]
      intro other hother
      have hname : other.1 ∈ (field :: rest).map Prod.fst := List.mem_map_of_mem hother
      simpa only [decide_eq_true_eq, not_not] using hname
    | succ k =>
      have hfield : field.1 ∉ (rest.map Prod.fst).drop k :=
        fun hmem => hnodup.1 (List.mem_of_mem_drop hmem)
      rw [List.take_succ_cons, List.map_cons, List.drop_succ_cons, ih hnodup.2, without, without,
        List.filter_cons_of_pos (by simpa using hfield)]

/-- Names that are paired with the first values give the first fields back: pairing stops where the
values end. -/
theorem zip_take (fields : List (String × Json)) (k : ℕ) :
    (fields.map Prod.fst).zip ((fields.take k).map Prod.snd) = fields.take k := by
  induction fields generalizing k with
  | nil => simp
  | cons field rest ih =>
    cases k with
    | zero => rfl
    | succ k => rw [List.take_succ_cons, List.map_cons, List.map_cons, List.zip_cons_cons, ih]

/-! ### The forms of a record -/

/-- The forms of a record that lacks the fields with the given names. -/
inductive FormOf (fields : List (String × Json)) (missing : List String) : Json → Prop where
  /-- An object that has the other fields in any order, beside fields of other names. -/
  | object (entries : List (String × Json))
      (h : (entries.filter fun entry => (fields.map Prod.fst).contains entry.1).Perm
        (without missing fields)) :
      FormOf fields missing (.record entries)
  /-- An array of the values in order, up to the first that is missing. -/
  | array (k : ℕ) (h : missing = (fields.map Prod.fst).drop k) :
      FormOf fields missing (.array ((fields.take k).map Prod.snd))

/-- What is left of a record, written as an object. -/
theorem formOf_record (fields : List (String × Json)) (missing : List String) :
    FormOf fields missing (.record (without missing fields)) := by
  have hknown : (without missing fields).filter
      (fun entry => (fields.map Prod.fst).contains entry.1) = without missing fields := by
    refine List.filter_eq_self.mpr fun field hfield => ?_
    rw [List.contains_iff_mem]
    exact List.mem_map_of_mem (without_sublist.subset hfield)
  exact .object _ (by rw [hknown])

/-- A record with all its fields, written as an object. -/
theorem formOf_record_self (fields : List (String × Json)) : FormOf fields [] (.record fields) := by
  have h := formOf_record fields []
  rwa [without_nil] at h

/-- Whether a reader of records finds the given fields in a value. -/
def HasFields (names : List String) (fields : List (String × Json)) (json : Json) : Prop :=
  ∃ read, json.record? names = some read ∧ ∀ name, read.lookup name = fields.lookup name

/-- The fields of an object that have a known name are found if no such name is repeated. -/
theorem knownFields?_of_nodup {names : List String}
    (hnodup : ((entries.filter fun entry => names.contains entry.1).map Prod.fst).Nodup) :
    knownFields? names (entries.map fun (name, value) => (some name, value)) =
      some (entries.filter fun entry => names.contains entry.1) := by
  -- A known name joins what is found behind it, any other name changes nothing.
  induction entries with
  | nil => rfl
  | cons entry rest ih =>
    obtain ⟨name, value⟩ := entry
    by_cases hname : names.contains name = true
    · rw [List.filter_cons_of_pos (by exact hname), List.map_cons, List.nodup_cons] at hnodup
      have hfresh : ((rest.filter fun entry => names.contains entry.1).map Prod.fst).contains
          name = false := by
        simpa only [List.contains_eq_mem, decide_eq_false_iff_not] using hnodup.1
      rw [List.filter_cons_of_pos (by exact hname), List.map_cons, knownFields?, ih hnodup.2]
      simp only [Option.bind_eq_bind, Option.bind_some, hname, hfresh, ↓reduceIte,
        Bool.false_eq_true]
      rfl
    · rw [List.filter_cons_of_neg (by exact hname)] at hnodup ⊢
      rw [List.map_cons, knownFields?, ih hnodup]
      simp only [Option.bind_eq_bind, Option.bind_some, hname, ↓reduceIte, Bool.false_eq_true]
      rfl

/-- In every form of a record, a reader finds the fields that are not missing. -/
theorem FormOf.hasFields {names : List String} (h : FormOf fields missing json)
    (hnames : fields.map Prod.fst = names) (hnodup : names.Nodup) :
    json.HasFields names (without missing fields) := by
  subst hnames
  have hleft : ((without missing fields).map Prod.fst).Nodup :=
    hnodup.sublist (without_sublist.map _)
  cases h with
  | object entries hperm =>
    refine ⟨_, knownFields?_of_nodup ((hperm.map Prod.fst).nodup_iff.mpr hleft), fun name => ?_⟩
    exact lookup_eq_of_perm hleft hperm name
  | array k hmissing =>
    have hlength : ((fields.take k).map Prod.snd).length ≤ (fields.map Prod.fst).length := by
      rw [List.length_map, List.length_map, List.length_take]
      exact Nat.min_le_right _ _
    refine ⟨_, if_pos hlength, fun name => ?_⟩
    rw [zip_take, take_eq_without hnodup, hmissing]

/-! ### Reading fields -/

/-- A field that has to be there is read unless it is missing. -/
theorem required?_of_lookup {reader : Json → Option α} {value? : Option α} {written : Json}
    (h : ∀ name, read.lookup name = (without missing fields).lookup name)
    (hfield : fields.lookup name = some written) (hvalue : reader written = value?) :
    required? read name reader = if name ∈ missing then none else value? := by
  unfold required?
  rw [h, lookup_without, hfield]
  split_ifs
  · rfl
  · exact hvalue

/-- A field that has a default takes it exactly if it is missing. -/
theorem optional?_of_lookup {reader : Json → Option α} {default value : α} {written : Json}
    (h : ∀ name, read.lookup name = (without missing fields).lookup name)
    (hfield : fields.lookup name = some written) (hvalue : reader written = some value) :
    optional? read name default reader = some (if name ∈ missing then default else value) := by
  unfold optional?
  rw [h, lookup_without, hfield]
  split_ifs
  · rfl
  · exact hvalue

/-! ### Single values -/

@[simp]
theorem word32?_word32 (n : UInt32) : (word32 n).word32? = some n := by
  have hlt : n.toNat < UInt32.size := n.toNat_lt
  simp [word32, word32?, hlt]

@[simp]
theorem word64?_word64 (n : UInt64) : (word64 n).word64? = some n := by
  have hlt : n.toNat < UInt64.size := n.toNat_lt
  simp [word64, word64?, hlt]

/-! ### Lists -/

theorem mapM_eq_some_of_forall₂ {reader : Json → Option α} {values : List α} {items : List Json}
    (h : List.Forall₂ (fun value item => reader item = some value) values items) :
    items.mapM reader = some values := by
  induction h with
  | nil => rfl
  | cons hitem _ ih => rw [List.mapM_cons, hitem, ih]; rfl

theorem mapM_eq_none_of_mem {reader : Json → Option α} {item : Json} {items : List Json}
    (hitem : reader item = none) (hmem : item ∈ items) : items.mapM reader = none := by
  induction items with
  | nil => cases hmem
  | cons first rest ih =>
    rw [List.mapM_cons]
    rcases List.mem_cons.mp hmem with rfl | hrest
    · rw [hitem]
      rfl
    · rw [ih hrest]
      cases reader first <;> rfl

end OpticalTiming.Json
