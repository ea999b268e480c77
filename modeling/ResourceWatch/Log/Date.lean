import ResourceWatch.Clock
import ResourceWatch.Text

/-!
Calendar dates in UTC, written in the order year, month, day, hour, minute, second.
-/

namespace ResourceWatch.Date

open Text

/-- The year, month and day that lie a number of days after the first of January 1970. Years are
counted from the first of March, so that a leap day ends one; 400 of them have 146097 days. -/
def ofDays (days : Int) : Int × Nat × Nat :=
  let shifted := days + 719468
  let era := shifted.fdiv 146097
  let dayOfEra := (shifted.fmod 146097).toNat
  let yearOfEra := (dayOfEra - dayOfEra / 1460 + dayOfEra / 36524 - dayOfEra / 146096) / 365
  let dayOfYear := dayOfEra - (365 * yearOfEra + yearOfEra / 4 - yearOfEra / 100)
  let march := (5 * dayOfYear + 2) / 153
  let month := if march < 10 then march + 3 else march - 9
  let year := yearOfEra + era * 400 + (if month ≤ 2 then 1 else 0)
  (year, month, dayOfYear - (153 * march + 2) / 5 + 1)

/-- Four digits, or six with a sign if the year needs more or lies before year zero. -/
def yearText (year : Int) : Text :=
  if 0 ≤ year ∧ year ≤ 9999 then padded 4 year.toNat
  else unit (if year < 0 then '-' else '+') :: padded 6 year.natAbs

/-- How far from the beginning of 1970 a date can lie, before it and after it. -/
def furthest : Time := 8640000000000000

/-- Whether a time has a date. -/
def isDate (time : Time) : Bool :=
  -furthest ≤ time && time ≤ furthest

/-- The date and time of day, to the millisecond. -/
def toText (time : Time) : Text :=
  let (year, month, day) := ofDays (time.fdiv 86400000)
  let ms := (time.fmod 86400000).toNat
  yearText year ++ unit '-' :: padded 2 month ++ unit '-' :: padded 2 day ++
    unit 'T' :: padded 2 (ms / 3600000) ++ unit ':' :: padded 2 (ms / 60000 % 60) ++
    unit ':' :: padded 2 (ms / 1000 % 60) ++ unit '.' :: padded 3 (ms % 1000) ++ [unit 'Z']

end ResourceWatch.Date
