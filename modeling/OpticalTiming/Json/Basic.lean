/-!
# JSON values

A `Json` value keeps what a reader of configurations has to tell apart: whole numbers from other
numbers, and every field of an object in the order of the text, repeated names included.
-/

namespace OpticalTiming

/-- A JSON value. -/
inductive Json where
  | null
  | bool (value : Bool)
  /-- A number without fraction and exponent, other than minus zero. -/
  | integer (value : Int)
  /-- Any other number, as it was written. -/
  | decimal (literal : String)
  /-- A string. One that holds half of a surrogate pair stands for no text and has none here. -/
  | string (text : Option String)
  | array (items : List Json)
  | object (fields : List (Option String × Json))

namespace Json

/-- The string with the given text. -/
def text (s : String) : Json := .string (some s)

/-- The number of a 32-bit word. -/
def word32 (n : UInt32) : Json := .integer n.toNat

/-- The number of a 64-bit word. -/
def word64 (n : UInt64) : Json := .integer n.toNat

/-- The object with the given fields. -/
def record (fields : List (String × Json)) : Json :=
  .object (fields.map fun (name, value) => (some name, value))

end Json

end OpticalTiming
