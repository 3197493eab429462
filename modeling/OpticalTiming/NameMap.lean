/-!
# Maps keyed by names

A `NameMap` holds at most one value for each name, in the order in which the names were first
stored. `get?_set` is the law of looking up after storing: the stored name has the new value and
every other name what it had.
-/

namespace OpticalTiming

/-- A finite map from names to values. -/
structure NameMap (α : Type) where
  entries : List (String × α)
  nodup : (entries.map Prod.fst).Nodup

namespace NameMap

variable {α : Type}

/-- The entries with the value of `name` replaced, or added at the end. -/
def setEntry (name : String) (value : α) : List (String × α) → List (String × α)
  | [] => [(name, value)]
  | (key, old) :: rest =>
    if key = name then (key, value) :: rest else (key, old) :: setEntry name value rest

theorem mem_keys_setEntry {name : String} {value : α} {key : String} :
    ∀ {entries : List (String × α)},
      key ∈ (setEntry name value entries).map Prod.fst ↔
        key = name ∨ key ∈ entries.map Prod.fst
  | [] => by simp [setEntry]
  | (k, old) :: rest => by
    by_cases h : k = name
    · subst h
      simp only [setEntry, ↓reduceIte, List.map_cons, List.mem_cons]
      grind
    · simp only [setEntry, h, ↓reduceIte, List.map_cons, List.mem_cons, mem_keys_setEntry]
      grind

theorem nodup_setEntry {name : String} {value : α} :
    ∀ {entries : List (String × α)}, (entries.map Prod.fst).Nodup →
      ((setEntry name value entries).map Prod.fst).Nodup
  | [], _ => by simp [setEntry]
  | (k, old) :: rest, hnodup => by
    by_cases h : k = name
    · simpa [setEntry, h] using hnodup
    · simp only [List.map_cons, List.nodup_cons] at hnodup
      simp only [setEntry, h, ↓reduceIte, List.map_cons, List.nodup_cons, mem_keys_setEntry]
      exact ⟨by grind, nodup_setEntry hnodup.2⟩

theorem lookup_setEntry (name : String) (value : α) (key : String) :
    ∀ entries : List (String × α),
      (setEntry name value entries).lookup key =
        if key = name then some value else entries.lookup key
  | [] => by simp only [setEntry, List.lookup_cons, List.lookup_nil]; grind
  | (k, old) :: rest => by
    by_cases h : k = name
    · simp only [setEntry, h, ↓reduceIte, List.lookup_cons]; grind
    · simp only [setEntry, h, ↓reduceIte, List.lookup_cons, lookup_setEntry name value key rest]
      grind

/-- The map without any entry. -/
def empty : NameMap α := ⟨[], by simp⟩

instance : Inhabited (NameMap α) := ⟨empty⟩

/-- The value of `name`, if there is one. -/
def get? (m : NameMap α) (name : String) : Option α := m.entries.lookup name

/-- The map that has `value` at `name` and is `m` elsewhere. -/
def set (m : NameMap α) (name : String) (value : α) : NameMap α :=
  ⟨setEntry name value m.entries, nodup_setEntry m.nodup⟩

/-- The names that have a value. -/
def names (m : NameMap α) : List String := m.entries.map Prod.fst

/-- The number of names that have a value. -/
def size (m : NameMap α) : Nat := m.entries.length

@[simp]
theorem get?_empty (name : String) : (empty : NameMap α).get? name = none := rfl

@[simp, grind =]
theorem get?_set (m : NameMap α) (name key : String) (value : α) :
    (m.set name value).get? key = if key = name then some value else m.get? key :=
  lookup_setEntry name value key m.entries

/-- Storing adds at most the stored name. -/
@[simp, grind =]
theorem mem_names_set {m : NameMap α} {name key : String} {value : α} :
    key ∈ (m.set name value).names ↔ key = name ∨ key ∈ m.names :=
  mem_keys_setEntry

end NameMap

end OpticalTiming
