import OpticalTiming.Json.Token

/-!
# Reading JSON

`parse?` reads a text that holds exactly one value. The reader goes through the tokens once and
keeps the arrays and objects that are still open in a list, so the depth of a value is not limited.
-/

namespace OpticalTiming.Json

/-- An array or object that is still open, with the latest items first. -/
inductive Frame where
  | array (items : List Json)
  /-- An object in which the value of the field `name` is being read. -/
  | object (fields : List (Option String × Json)) (name : Option String)

/-- Where a reader stands; `stack` holds what is open, the innermost first. -/
inductive Reader where
  /-- A value is due. -/
  | valueDue (stack : List Frame)
  /-- An array was opened: a value or its end is due. -/
  | firstItemDue (stack : List Frame)
  /-- An object was opened: a name or its end is due. -/
  | firstNameDue (stack : List Frame)
  /-- The name of a further field is due. -/
  | nameDue (fields : List (Option String × Json)) (stack : List Frame)
  /-- The colon behind a name is due. -/
  | colonDue (fields : List (Option String × Json)) (name : Option String) (stack : List Frame)
  /-- A value is complete. -/
  | complete (value : Json) (stack : List Frame)

namespace Reader

/-- Takes a token where a value is due. -/
def beginValue (stack : List Frame) : Token → Option Reader
  | .scalar v => some (.complete v stack)
  | .openArray => some (.firstItemDue stack)
  | .openObject => some (.firstNameDue stack)
  | _ => none

/-- Takes a token where the name of a field is due. -/
def beginField (fields : List (Option String × Json)) (stack : List Frame) :
    Token → Option Reader
  | .scalar (.string name) => some (.colonDue fields name stack)
  | _ => none

/-- Takes a token behind a complete value: a comma or the end of the innermost container. -/
def afterValue (value : Json) : List Frame → Token → Option Reader
  | .array items :: stack, .comma => some (.valueDue (.array (value :: items) :: stack))
  | .array items :: stack, .closeArray =>
    some (.complete (.array (value :: items).reverse) stack)
  | .object fields name :: stack, .comma => some (.nameDue ((name, value) :: fields) stack)
  | .object fields name :: stack, .closeObject =>
    some (.complete (.object ((name, value) :: fields).reverse) stack)
  | _, _ => none

/-- Takes one token. -/
def step : Reader → Token → Option Reader
  | valueDue stack, token => beginValue stack token
  | firstItemDue stack, .closeArray => some (.complete (.array []) stack)
  | firstItemDue stack, token => beginValue (.array [] :: stack) token
  | firstNameDue stack, .closeObject => some (.complete (.object []) stack)
  | firstNameDue stack, token => beginField [] stack token
  | nameDue fields stack, token => beginField fields stack token
  | colonDue fields name stack, .colon => some (.valueDue (.object fields name :: stack))
  | colonDue _ _ _, _ => none
  | complete value stack, token => afterValue value stack token

/-- The value that was read, if nothing is open. -/
def result? : Reader → Option Json
  | complete value [] => some value
  | _ => none

end Reader

/-- The value of a JSON text that holds exactly one. -/
def parse? (s : String) : Option Json := do
  let tokens ← tokens? s
  let reader ← tokens.foldlM Reader.step (.valueDue [])
  reader.result?

end OpticalTiming.Json
