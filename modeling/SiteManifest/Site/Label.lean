import SiteManifest.Calendar.Moment
import SiteManifest.Decimal.Notation
import SiteManifest.Site.Basic

/-!
# Labels

The label that shows when a page was changed: a text, a date and a time of day in universal time, as
they are written in American English.
-/

namespace SiteManifest

open Calendar

/-- A number with at least two digits. -/
def twoDigits (n : Nat) : String :=
  if n < 10 then "0" ++ Decimal.natText n else Decimal.natText n

/-- A number with at least four digits. -/
def fourDigits (n : Nat) : String :=
  .ofList ((Decimal.natText n).toList.leftpad 4 '0')

/-- A year. Years before the year 0 and after the year 9999 have a sign. -/
def yearText (year : Int) : String :=
  if year < 0 then "-" ++ fourDigits year.natAbs
  else if 9999 < year then "+" ++ fourDigits year.natAbs
  else fourDigits year.natAbs

/-- The last two digits of a year. -/
def shortYearText (year : Int) : String := twoDigits (year.fmod 100).toNat

/-- The date of a moment in a style. -/
def Style.dateText (style : Style) (m : Moment) : String :=
  let date := m.date
  let day := Decimal.natText date.day
  let long := monthName date.month ++ " " ++ day ++ ", " ++ yearText date.year
  match style with
  | .full => weekdayName (weekday m.dayNumber) ++ ", " ++ long
  | .long => long
  | .medium =>
    .ofList ((monthName date.month).toList.take 3) ++ " " ++ day ++ ", " ++ yearText date.year
  | .short => Decimal.natText date.month ++ "/" ++ day ++ "/" ++ shortYearText date.year

/-- The hour on a clock of twelve hours. -/
def clockHour (hour : Nat) : Nat := if hour % 12 = 0 then 12 else hour % 12

/-- The half of the day. -/
def halfDay (hour : Nat) : String := if hour < 12 then "AM" else "PM"

/-- The time of day of a moment in a style. -/
def Style.timeText (style : Style) (m : Moment) : String :=
  let start := Decimal.natText (clockHour m.hour) ++ ":" ++ twoDigits m.minute
  let medium := start ++ ":" ++ twoDigits m.second ++ " " ++ halfDay m.hour
  match style with
  | .full => medium ++ " Coordinated Universal Time"
  | .long => medium ++ " UTC"
  | .medium => medium
  | .short => start ++ " " ++ halfDay m.hour

/-- What stands between a date in a style and a time. -/
def Style.joint : Style → String
  | .full => " at "
  | .long => " at "
  | .medium => ", "
  | .short => ", "

/-- A moment in the styles of a format. -/
def LabelFormat.text (f : LabelFormat) (m : Moment) : String :=
  f.date.dateText m ++ f.date.joint ++ f.time.timeText m

/-- The label of a page that was changed at a moment. -/
def LastUpdated.label (l : LastUpdated) (m : Moment) : String :=
  l.text ++ " " ++ l.format.text m

end SiteManifest
