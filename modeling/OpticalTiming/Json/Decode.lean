import OpticalTiming.Json.Basic

/-!
# Reading values out of JSON

Readers of single values (`word32?`, `word64?`, `text?`, `variant?`) and of records. A record is
written as an object, whose unknown fields are ignored, or as an array that holds its fields in
order; `record?` brings both to one form. Null stands for nothing but an absent optional value.
-/

namespace OpticalTiming.Json

/-- The text of a string. -/
def text? : Json → Option String
  | .string text => text
  | _ => none

/-- The number of an integer that fits 32 bits. -/
def word32? : Json → Option UInt32
  | .integer (.ofNat n) => if n < UInt32.size then some (UInt32.ofNat n) else none
  | _ => none

/-- The number of an integer that fits 64 bits. -/
def word64? : Json → Option UInt64
  | .integer (.ofNat n) => if n < UInt64.size then some (UInt64.ofNat n) else none
  | _ => none

/-- The items of an array. -/
def items? : Json → Option (List Json)
  | .array items => some items
  | _ => none

/-- The name of an alternative: a string, or an object with that one field, which is null. -/
def variant? : Json → Option String
  | .string name => name
  | .object [(name, .null)] => name
  | _ => none

/-- A value that may be null. -/
def nullable? {α : Type} (read : Json → Option α) : Json → Option (Option α)
  | .null => some none
  | json => (read json).map some

/-- The fields of an object that have one of the given names, in the order of the text. A field
without a proper name is refused, and so is a repeated name. -/
def knownFields? (names : List String) :
    List (Option String × Json) → Option (List (String × Json))
  | [] => some []
  | (none, _) :: _ => none
  | (some name, value) :: rest => do
    let fields ← knownFields? names rest
    if names.contains name then
      if (fields.map Prod.fst).contains name then none else return (name, value) :: fields
    else
      return fields

/-- The fields of a record with the given names: an object's by name, an array's by place. -/
def record? (names : List String) : Json → Option (List (String × Json))
  | .object fields => knownFields? names fields
  | .array items => if items.length ≤ names.length then some (names.zip items) else none
  | _ => none

/-- A field that has to be there. -/
def required? {α : Type} (fields : List (String × Json)) (name : String)
    (read : Json → Option α) : Option α :=
  match fields.lookup name with
  | some value => read value
  | none => none

/-- A field that takes a default when it is missing. -/
def optional? {α : Type} (fields : List (String × Json)) (name : String) (default : α)
    (read : Json → Option α) : Option α :=
  match fields.lookup name with
  | some value => read value
  | none => some default

end OpticalTiming.Json
