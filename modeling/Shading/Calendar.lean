import Shading.Text.Lines

/-!
# Calendar dates

The date and time of day, in universal time, of a number of seconds since the beginning of 1970. Days are
counted from the first of March of year zero, so that a leap day ends its year.
-/

namespace Shading

/-- A date and a time of day. -/
structure Moment where
  year : Int
  month : Int
  day : Int
  hour : Int
  minute : Int
  second : Int
deriving DecidableEq

namespace Moment

/-- The date that lies a number of days after the first of January 1970. -/
def dateOfDays (days : Int) : Int × Int × Int :=
  let sinceMarch := days + 719468
  let era := sinceMarch / 146097
  let dayOfEra := sinceMarch % 146097
  let yearOfEra := (dayOfEra - dayOfEra / 1460 + dayOfEra / 36524 - dayOfEra / 146096) / 365
  let dayOfYear := dayOfEra - (365 * yearOfEra + yearOfEra / 4 - yearOfEra / 100)
  let monthFromMarch := (5 * dayOfYear + 2) / 153
  let day := dayOfYear - (153 * monthFromMarch + 2) / 5 + 1
  let month := if monthFromMarch < 10 then monthFromMarch + 3 else monthFromMarch - 9
  let year := yearOfEra + era * 400 + (if month ≤ 2 then 1 else 0)
  (year, month, day)

/-- The moment that lies a number of seconds after the beginning of 1970. -/
def ofSeconds (seconds : Int) : Moment :=
  let (year, month, day) := dateOfDays (seconds / 86400)
  let rest := seconds % 86400
  ⟨year, month, day, rest / 3600, rest / 60 % 60, rest % 60⟩

/-- A number with zeros on its left up to a width. -/
def digits (width : Nat) (n : Int) : String :=
  let text := Int.repr n
  String.ofList (List.replicate (width - text.length) '0') ++ text

/-- The date, the time of day and the time zone. -/
def text (moment : Moment) : String :=
  digits 4 moment.year ++ "-" ++ digits 2 moment.month ++ "-" ++ digits 2 moment.day ++ " " ++
    digits 2 moment.hour ++ ":" ++ digits 2 moment.minute ++ ":" ++ digits 2 moment.second ++ " UTC"

end Moment

end Shading
