import OpticalTiming.Time.Calendar

/-!
# Times of day in UTC

`UtcTime` counts seconds from 1 January 1970 with a part below the second in nanoseconds. The
calendar reaches from the year -262143 to the year 262142. A leap second is the last second of its
minute with more than a second of nanoseconds, so that it comes before the next minute.
`UtcTime.text` writes a time with as few groups of three fraction digits as are exact.
-/

namespace OpticalTiming

/-- The first second of the year -262143, from 1 January 1970. -/
def firstSecond : Int := -8334601228800

/-- The last second of the year 262142, from 1 January 1970. -/
def lastSecond : Int := 8210266876799

/-- Nanoseconds in a second. -/
def nanosPerSecond : Nat := 1000000000

/-- Whether `nanos` can stand below the second `secs`: less than a second, or less than two at the
end of a minute. -/
def IsSubsecond (secs : Int) (nanos : Nat) : Prop :=
  nanos < nanosPerSecond ∨ (nanos < 2 * nanosPerSecond ∧ secs % 60 = 59)

instance (secs : Int) (nanos : Nat) : Decidable (IsSubsecond secs nanos) := by
  unfold IsSubsecond; infer_instance

/-- A time of the calendar in UTC. -/
structure UtcTime where
  /-- Seconds since 1 January 1970, without leap seconds. -/
  secs : Int
  /-- Nanoseconds after `secs`; a second or more within a leap second. -/
  nanos : Nat
  first_le : firstSecond ≤ secs
  le_last : secs ≤ lastSecond
  isSubsecond : IsSubsecond secs nanos
  deriving Repr, DecidableEq

namespace UtcTime

/-- The time `secs` seconds and `nanos` nanoseconds after the start of 1970, if the calendar has
it. -/
def ofUnix? (secs : Int) (nanos : Nat) : Option UtcTime :=
  if h : firstSecond ≤ secs ∧ secs ≤ lastSecond ∧ IsSubsecond secs nanos then
    some ⟨secs, nanos, h.1, h.2.1, h.2.2⟩
  else
    none

/-- The order of times: by second, then by nanosecond, so that a leap second comes before the
second that follows it. -/
def le (s t : UtcTime) : Prop := s.secs < t.secs ∨ (s.secs = t.secs ∧ s.nanos ≤ t.nanos)

/-! ### Text -/

/-- A number in decimal, filled up with zeros on the left to at least `width` digits. -/
def padded (width n : Nat) : String :=
  let digits := Nat.toDigits 10 n
  String.ofList (List.replicate (width - digits.length) '0' ++ digits)

/-- A year of four digits, or a signed one with at least four digits when it lies outside 0 to
9999. -/
def yearText (year : Int) : String :=
  if 0 ≤ year ∧ year ≤ 9999 then padded 4 year.toNat
  else (if year < 0 then "-" else "+") ++ padded 4 year.natAbs

/-- A fraction of a second with three, six or nine digits, whichever is the first to be exact;
nothing for a whole second. -/
def fractionText (nanos : Nat) : String :=
  if nanos = 0 then ""
  else if nanos % 1000000 = 0 then "." ++ padded 3 (nanos / 1000000)
  else if nanos % 1000 = 0 then "." ++ padded 6 (nanos / 1000)
  else "." ++ padded 9 nanos

/-- Date, time of day and fraction in UTC. A leap second is shown as second 60. -/
def text (t : UtcTime) : String :=
  let date := Date.ofDays (t.secs.fdiv 86400)
  let ofDay := (t.secs.fmod 86400).toNat
  let leap := nanosPerSecond ≤ t.nanos
  let second := ofDay % 60 + (if leap then 1 else 0)
  let nanos := if leap then t.nanos - nanosPerSecond else t.nanos
  let day := yearText date.year ++ "-" ++ padded 2 date.month ++ "-" ++ padded 2 date.day
  let clock := padded 2 (ofDay / 3600) ++ ":" ++ padded 2 (ofDay / 60 % 60) ++ ":" ++
    padded 2 second
  day ++ " " ++ clock ++ fractionText nanos ++ " UTC"

end UtcTime

end OpticalTiming
