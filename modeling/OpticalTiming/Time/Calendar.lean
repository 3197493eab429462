/-!
# Dates

The proleptic Gregorian calendar with a year zero, as a count of days from 1 January 1970.
`Date.ofDays` works in eras of 400 years (146097 days), with years that start on 1 March so that
the leap day is the last day of its year.
-/

namespace OpticalTiming

/-- A day of the calendar. -/
structure Date where
  year : Int
  month : Nat
  day : Nat
  deriving Repr, DecidableEq

namespace Date

/-- Days from 1 March of year 0 to 1 January 1970. -/
def epochDay : Int := 719468

/-- Days of an era, the 400 years after which the calendar repeats. -/
def eraDays : Int := 146097

/-- The day `days` days after 1 January 1970. -/
def ofDays (days : Int) : Date :=
  let shifted := days + epochDay
  let era := shifted.fdiv eraDays
  let dayOfEra := (shifted.fmod eraDays).toNat
  let yearOfEra := (dayOfEra - dayOfEra / 1460 + dayOfEra / 36524 - dayOfEra / 146096) / 365
  let dayOfYear := dayOfEra - (365 * yearOfEra + yearOfEra / 4 - yearOfEra / 100)
  let marchMonth := (5 * dayOfYear + 2) / 153
  let day := dayOfYear - (153 * marchMonth + 2) / 5 + 1
  let month := if marchMonth < 10 then marchMonth + 3 else marchMonth - 9
  let year := era * 400 + yearOfEra + (if month ≤ 2 then 1 else 0)
  { year, month, day }

end Date

end OpticalTiming
