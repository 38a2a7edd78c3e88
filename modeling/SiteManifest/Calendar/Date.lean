/-!
# Dates

The days of the Gregorian calendar, which is taken to hold for all time. Days are numbered from the
first day of 1970. A year is counted from its March here, so that the day that only leap years have is
the last one of a year.
-/

namespace SiteManifest.Calendar

/-- A date. Months and days are counted from one. -/
structure Date where
  year : Int
  month : Nat
  day : Nat
  deriving DecidableEq, Repr

/-- The days of 400 years. -/
def daysOfEra : Nat := 146097

/-- The day number of the first of March of the year 0. -/
def eraStart : Int := -719468

/-- The year of an era that a day belongs to, counted from March, and the day in it. All centuries but
the last one lack a leap day, and so does every group of four years but the last one of a century. -/
def yearOfEra (day : Nat) : Nat × Nat :=
  let century := min 3 (day / 36524)
  let dayOfCentury := day - 36524 * century
  let group := dayOfCentury / 1461
  let dayOfGroup := dayOfCentury % 1461
  let year := min 3 (dayOfGroup / 365)
  (100 * century + 4 * group + year, dayOfGroup - 365 * year)

/-- The month and the day of a day of a year that is counted from March. Five months have 153 days. -/
def monthOfYear (day : Nat) : Nat × Nat :=
  let month := (5 * day + 2) / 153
  (month, day - (153 * month + 2) / 5 + 1)

/-- The date of a day. -/
def Date.ofDayNumber (number : Int) : Date :=
  let era := (number - eraStart).fdiv daysOfEra
  let (year, dayOfYear) := yearOfEra ((number - eraStart).fmod daysOfEra).toNat
  let (month, day) := monthOfYear dayOfYear
  if month < 10 then ⟨400 * era + year, month + 3, day⟩
  else ⟨400 * era + year + 1, month - 9, day⟩

/-- The day of the week of a day: Sunday is zero. -/
def weekday (number : Int) : Nat := ((number + 4).fmod 7).toNat

/-- The names of the days of the week. -/
def weekdayNames : List String :=
  ["Sunday", "Monday", "Tuesday", "Wednesday", "Thursday", "Friday", "Saturday"]

/-- The names of the months. -/
def monthNames : List String :=
  ["January", "February", "March", "April", "May", "June", "July", "August", "September",
    "October", "November", "December"]

/-- The name of a day of the week. -/
def weekdayName (n : Nat) : String := weekdayNames[n]?.getD ""

/-- The name of a month, counted from one. -/
def monthName (n : Nat) : String := monthNames[n - 1]?.getD ""

end SiteManifest.Calendar
