import OpticalTiming.Json.Basic

/-!
# The tokens of a JSON text

A JSON text is cut into brackets, separators and scalars; `tokens?` refuses a text with a malformed
scalar or a character that belongs to none. Blanks are the space, the tab and the two line ends.
A string may not hold control characters, and a number has no leading zeros and no plus sign.
-/

namespace OpticalTiming.Json

/-- A token of a JSON text. -/
inductive Token where
  | openArray
  | closeArray
  | openObject
  | closeObject
  | comma
  | colon
  /-- A value that is no array or object. -/
  | scalar (value : Json)

/-! ### Numbers -/

/-- The number that decimal digits stand for. -/
def digitsValue (digits : List Char) : Nat :=
  digits.foldl (fun n c => 10 * n + (c.toNat - '0'.toNat)) 0

/-- Whether the characters are an exponent, its mark included, or nothing. -/
def isExponent : List Char → Bool
  | [] => true
  | mark :: rest =>
    let digits :=
      match rest with
      | '+' :: digits => digits
      | '-' :: digits => digits
      | digits => digits
    (mark = 'e' || mark = 'E') && !digits.isEmpty && digits.all Char.isDigit

/-- Whether the characters are a fraction, an exponent or both. -/
def isFraction : List Char → Bool
  | '.' :: rest =>
    !(rest.takeWhile Char.isDigit).isEmpty && isExponent (rest.dropWhile Char.isDigit)
  | rest => isExponent rest

/-- The value of a number literal. Only a literal of digits with or without a minus sign is an
integer, and minus zero is none. -/
def ofNumber? (literal : List Char) : Option Json :=
  let isNegative := literal.head? = some '-'
  let body := if isNegative then literal.tail else literal
  let digits := body.takeWhile Char.isDigit
  let rest := body.dropWhile Char.isDigit
  if digits.isEmpty ∨ (digits.head? = some '0' ∧ digits ≠ ['0']) then none
  else if rest.isEmpty then
    let value := digitsValue digits
    if isNegative then
      if value = 0 then some (.decimal (String.ofList literal)) else some (.integer (-value))
    else
      some (.integer value)
  else if isFraction rest then some (.decimal (String.ofList literal))
  else none

/-- The characters of which number literals are made. -/
def isNumberChar (c : Char) : Bool := c.isDigit || "+-.eE".toList.contains c

/-! ### Strings -/

/-- Cuts a text behind an opening quote at the closing one: the body of the string, with its
escapes, and the rest of the text. -/
def splitString? : List Char → Option (List Char × List Char)
  | [] => none
  | '"' :: rest => some ([], rest)
  | '\\' :: c :: rest => (splitString? rest).map fun (body, rest) => ('\\' :: c :: body, rest)
  | c :: rest =>
    if c < ' ' then none else (splitString? rest).map fun (body, rest) => (c :: body, rest)

/-- The value of a hexadecimal digit of either case. -/
def hexDigit? (c : Char) : Option Nat :=
  if '0' ≤ c ∧ c ≤ '9' then some (c.toNat - '0'.toNat)
  else if 'a' ≤ c ∧ c ≤ 'f' then some (c.toNat - 'a'.toNat + 10)
  else if 'A' ≤ c ∧ c ≤ 'F' then some (c.toNat - 'A'.toNat + 10)
  else none

/-- The value of four hexadecimal digits. -/
def hexUnit? (a b c d : Char) : Option Nat := do
  let a ← hexDigit? a
  let b ← hexDigit? b
  let c ← hexDigit? c
  let d ← hexDigit? d
  return ((a * 16 + b) * 16 + c) * 16 + d

/-- The character that an escape of one letter stands for. -/
def simpleEscape? : Char → Option Char
  | '"' => some '"'
  | '\\' => some '\\'
  | '/' => some '/'
  | 'b' => some '\x08'
  | 'f' => some '\x0c'
  | 'n' => some '\n'
  | 'r' => some '\r'
  | 't' => some '\t'
  | _ => none

/-- The code units of the body of a string: code points of plain characters, and 16-bit units of
numbered escapes. A malformed escape is refused. -/
def units? : List Char → Option (List Nat)
  | [] => some []
  | '\\' :: 'u' :: a :: b :: c :: d :: rest => do
    let unit ← hexUnit? a b c d
    let units ← units? rest
    return unit :: units
  | '\\' :: c :: rest => do
    let c ← simpleEscape? c
    let units ← units? rest
    return c.toNat :: units
  | c :: rest => if c = '\\' then none else (units? rest).map (c.toNat :: ·)

/-- Whether a unit is the first half of a surrogate pair. -/
def isHighSurrogate (unit : Nat) : Bool := 0xD800 ≤ unit && unit < 0xDC00

/-- Whether a unit is the second half of a surrogate pair. -/
def isLowSurrogate (unit : Nat) : Bool := 0xDC00 ≤ unit && unit < 0xE000

/-- The characters that units stand for, where two halves make one character. There are none if a
half stands alone. -/
def chars? : List Nat → Option (List Char)
  | [] => some []
  | [unit] =>
    if isHighSurrogate unit || isLowSurrogate unit then none else some [Char.ofNat unit]
  | unit :: next :: rest =>
    if isHighSurrogate unit && isLowSurrogate next then
      let code := 0x10000 + (unit - 0xD800) * 0x400 + (next - 0xDC00)
      (chars? rest).map (Char.ofNat code :: ·)
    else if isHighSurrogate unit || isLowSurrogate unit then none
    else (chars? (next :: rest)).map (Char.ofNat unit :: ·)

/-- The value of a string literal, given its body. -/
def ofStringBody? (body : List Char) : Option Json :=
  (units? body).map fun units => .string ((chars? units).map String.ofList)

theorem length_lt_of_splitString? : ∀ {s body rest : List Char},
    splitString? s = some (body, rest) → rest.length < s.length
  | [], _, _, h => by simp [splitString?] at h
  | c :: s, body, rest, h => by
    unfold splitString? at h
    split at h
    · simp_all
    · rename_i hs
      obtain ⟨rfl, rfl⟩ : c = '"' ∧ s = _ := by simpa using hs
      obtain ⟨-, rfl⟩ : body = [] ∧ s = rest := by simpa using h
      simp
    · rename_i d t hs
      obtain ⟨rfl, rfl⟩ : c = '\\' ∧ s = d :: t := by simpa using hs
      simp only [Option.map_eq_some_iff, Prod.mk.injEq] at h
      obtain ⟨⟨b, r⟩, hsplit, _, rfl⟩ := h
      have := length_lt_of_splitString? hsplit
      simp only [List.length_cons]
      omega
    · rename_i d t _ _ hs
      obtain ⟨rfl, rfl⟩ : c = d ∧ s = t := by simpa using hs
      split at h
      · simp at h
      · simp only [Option.map_eq_some_iff, Prod.mk.injEq] at h
        obtain ⟨⟨b, r⟩, hsplit, _, rfl⟩ := h
        have := length_lt_of_splitString? hsplit
        simp only [List.length_cons]
        omega

/-! ### Words and texts -/

/-- The value that a word stands for. -/
def ofWord? (word : List Char) : Option Json :=
  if word = "null".toList then some .null
  else if word = "true".toList then some (.bool true)
  else if word = "false".toList then some (.bool false)
  else none

/-- Whether a character may stand between tokens. -/
def isBlank (c : Char) : Bool := c = ' ' || c = '\t' || c = '\n' || c = '\r'

/-- The bracket or separator that a character is. -/
def punctuation? : Char → Option Token
  | '[' => some .openArray
  | ']' => some .closeArray
  | '\x7b' => some .openObject
  | '\x7d' => some .closeObject
  | ',' => some .comma
  | ':' => some .colon
  | _ => none

/-- Cuts off the token that a text begins with, given its first character, which is no blank: the
token and the rest of the text. -/
def nextToken? (c : Char) (rest : List Char) : Option (Token × List Char) :=
  match punctuation? c with
  | some token => some (token, rest)
  | none =>
    if c = '"' then do
      let (body, rest) ← splitString? rest
      let value ← ofStringBody? body
      return (.scalar value, rest)
    else if c.isDigit || c = '-' then do
      let value ← ofNumber? (c :: rest.takeWhile isNumberChar)
      return (.scalar value, rest.dropWhile isNumberChar)
    else do
      let value ← ofWord? (c :: rest.takeWhile Char.isAlpha)
      return (.scalar value, rest.dropWhile Char.isAlpha)

theorem length_le_of_nextToken? {c : Char} {s rest : List Char} {token : Token}
    (h : nextToken? c s = some (token, rest)) : rest.length ≤ s.length := by
  unfold nextToken? at h
  split at h
  · simp_all
  · split at h
    · simp only [bind, Option.bind_eq_some_iff, pure, Option.some.injEq, Prod.mk.injEq] at h
      obtain ⟨⟨b, r⟩, hsplit, v, _, _, rfl⟩ := h
      exact Nat.le_of_lt (length_lt_of_splitString? hsplit)
    · split at h <;>
      · simp only [bind, Option.bind_eq_some_iff, pure, Option.some.injEq, Prod.mk.injEq] at h
        obtain ⟨v, _, _, rfl⟩ := h
        exact (List.dropWhile_suffix _).length_le

/-- The tokens of a text, behind those that were found before it (the latest first). -/
def tokensFrom? (found : List Token) (s : List Char) : Option (List Token) :=
  match s with
  | [] => some found.reverse
  | c :: rest =>
    if isBlank c then tokensFrom? found rest
    else
      match _h : nextToken? c rest with
      | none => none
      | some (token, rest) => tokensFrom? (token :: found) rest
termination_by s.length
decreasing_by
  · simp
  · have := length_le_of_nextToken? _h
    simp only [List.length_cons]
    omega

/-- The tokens of a text. -/
def tokens? (s : String) : Option (List Token) := tokensFrom? [] s.toList

end OpticalTiming.Json
