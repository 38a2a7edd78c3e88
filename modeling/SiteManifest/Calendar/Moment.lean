import SiteManifest.Calendar.Date

/-!
# Moments

A moment is a number of seconds since the start of 1970 in universal time, and a part of a second. A
moment may lie in a leap second, which comes after the second it is counted with.
-/

namespace SiteManifest.Calendar

/-- A moment. -/
structure Moment where
  seconds : Int
  /-- From a thousand million on, the moment lies in the leap second that follows. -/
  nanoseconds : Nat
  deriving DecidableEq, Repr

namespace Moment

/-- The nanoseconds of a second. -/
def nanosPerSecond : Nat := 1000000000

/-- The day that a moment lies in. -/
def dayNumber (m : Moment) : Int := m.seconds.fdiv 86400

/-- The second of the day that a moment lies in. -/
def secondOfDay (m : Moment) : Nat := (m.seconds.fmod 86400).toNat

/-- The date of a moment. -/
def date (m : Moment) : Date := .ofDayNumber m.dayNumber

/-- Whether a moment lies in a leap second. -/
def isLeap (m : Moment) : Bool := nanosPerSecond ≤ m.nanoseconds

/-- The hour of the day. -/
def hour (m : Moment) : Nat := m.secondOfDay / 3600

/-- The minute of the hour. -/
def minute (m : Moment) : Nat := m.secondOfDay / 60 % 60

/-- The second of the minute. A leap second is the sixty-first one. -/
def second (m : Moment) : Nat :=
  m.secondOfDay % 60 + (if m.isLeap then 1 else 0)

/-- The first and the last year that moments lie in. -/
def firstYear : Int := -262143

@[inherit_doc firstYear]
def lastYear : Int := 262142

/-- Whether a moment lies in the years that are counted, and in a second that there is: only the last
second of a minute may be followed by a leap second. -/
def isValid (m : Moment) : Bool :=
  firstYear ≤ m.date.year && m.date.year ≤ lastYear
    && (m.nanoseconds < nanosPerSecond
      || (m.nanoseconds < 2 * nanosPerSecond && m.seconds.fmod 60 == 59))

end Moment

end SiteManifest.Calendar
