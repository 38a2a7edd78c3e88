import SiteManifest.Calendar.Moment
import SiteManifest.Proofs.Calendar.Gregorian

/-!
# Civil time

What a calendar and a clock show in universal time. It is said what they show at a moment without the
calculation from the seconds: the date is a date of the calendar, the day of the week goes round, the clock
keeps to its bounds, and all of them together count the seconds since the start of 1970.

The main statements are that there is a civil time for every moment that there is, and that two civil times
are the same exactly if their moments lie in the same second, where a leap second is one of its own.
-/

namespace SiteManifest.Calendar

/-- A date with its day of the week, and a time of day. -/
@[ext]
structure CivilTime where
  date : Date
  /-- Sunday is zero. -/
  weekday : Nat
  hour : Nat
  minute : Nat
  second : Nat
  deriving DecidableEq, Repr

/-- What is shown at a moment. The first day of 1970 was a Thursday, and the sixty-first second of a minute
is a leap second. -/
structure CivilTime.IsAt (c : CivilTime) (m : Moment) : Prop where
  gregorian : c.date.IsGregorian
  day : c.date.dayNumber = m.seconds.fdiv 86400
  weekday : (c.weekday : Int) = (c.date.dayNumber + 4) % 7
  hour : c.hour < 24
  minute : c.minute < 60
  second : c.second ≤ 60
  leap : c.second = 60 ↔ m.isLeap = true
  elapsed : 86400 * c.date.dayNumber + (3600 * c.hour + 60 * c.minute + c.second : Nat)
    = m.seconds + m.isLeap.toNat

/-- The civil time of a moment. -/
def Moment.civil (m : Moment) : CivilTime :=
  ⟨m.date, Calendar.weekday m.dayNumber, m.hour, m.minute, m.second⟩

/-! ## The time of day -/

namespace Moment

variable {m : Moment}

/-- The seconds of a moment are those of whole days and those of its day. -/
theorem seconds_eq (m : Moment) :
    m.seconds = 86400 * m.dayNumber + m.secondOfDay ∧ m.secondOfDay < 86400 := by
  unfold dayNumber secondOfDay
  rw [Int.fdiv_eq_ediv_of_nonneg _ (by decide), Int.fmod_eq_emod_of_nonneg _ (by decide)]
  omega

/-- A leap second follows the last second of a minute. -/
theorem secondOfDay_of_isLeap (h : m.isValid = true) (hleap : m.isLeap = true) :
    m.secondOfDay % 60 = 59 := by
  simp only [isValid, Bool.and_eq_true, Bool.or_eq_true, decide_eq_true_eq, beq_iff_eq] at h
  simp only [isLeap, decide_eq_true_eq] at hleap
  obtain ⟨-, hearly | ⟨-, hlast⟩⟩ := h
  · omega
  · have hseconds := m.seconds_eq
    rw [Int.fmod_eq_emod_of_nonneg _ (by decide)] at hlast
    omega

/-- The clock counts the seconds of the day, and a leap second as one more. -/
theorem clock_eq (m : Moment) :
    3600 * m.hour + 60 * m.minute + m.second = m.secondOfDay + m.isLeap.toNat := by
  unfold hour minute second Bool.toNat
  cases m.isLeap with
  | false => simp only [cond_false, Bool.false_eq_true, if_false]; omega
  | true => simp only [cond_true, if_true]; omega

/-- The clock keeps to its bounds, and goes beyond the sixtieth second for leap seconds only. -/
theorem clock_bounds (h : m.isValid = true) :
    m.hour < 24 ∧ m.minute < 60 ∧ m.second ≤ 60 ∧ (m.second = 60 ↔ m.isLeap = true) := by
  have hday := m.seconds_eq.2
  refine ⟨by unfold hour; omega, by unfold minute; omega, ?_⟩
  unfold second
  cases hleap : m.isLeap with
  | false =>
    rw [if_neg Bool.false_ne_true, iff_false_right Bool.false_ne_true]
    omega
  | true =>
    have hlast := secondOfDay_of_isLeap h hleap
    rw [if_pos rfl, hlast]
    decide

theorem weekday_eq (number : Int) : (weekday number : Int) = (number + 4) % 7 := by
  unfold weekday
  rw [Int.fmod_eq_emod_of_nonneg _ (by decide)]
  omega

/-- **There is a civil time for every moment that there is.** -/
theorem isAt_civil (h : m.isValid = true) : m.civil.IsAt m := by
  obtain ⟨hgregorian, hnumber⟩ := Date.ofDayNumber_spec m.dayNumber
  obtain ⟨hhour, hminute, hsecond, hleap⟩ := clock_bounds h
  have hdate : m.civil.date.dayNumber = m.dayNumber := hnumber
  refine ⟨hgregorian, hnumber, ?_, hhour, hminute, hsecond, hleap, ?_⟩
  · rw [hdate]
    exact weekday_eq m.dayNumber
  · have hclock : 3600 * m.civil.hour + 60 * m.civil.minute + m.civil.second = _ := m.clock_eq
    rw [hdate, hclock, m.seconds_eq.1]
    push_cast
    omega

end Moment

/-! ## Civil times of moments -/

namespace CivilTime.IsAt

variable {c c' : CivilTime} {m m' : Moment}

/-- The date tells the day of the week. -/
theorem weekday_eq (h : c.IsAt m) (h' : c'.IsAt m') (hdate : c.date = c'.date) :
    c.weekday = c'.weekday := by
  have hweek := h.weekday
  have hweek' := h'.weekday
  rw [hdate] at hweek
  omega

/-- **Two civil times are the same exactly if their moments lie in the same second**, leap seconds apart. -/
theorem eq_iff (h : c.IsAt m) (h' : c'.IsAt m') :
    c = c' ↔ m.seconds = m'.seconds ∧ m.isLeap = m'.isLeap := by
  constructor
  · rintro rfl
    have hleap : m.isLeap = m'.isLeap := Bool.eq_iff_iff.mpr (h.leap.symm.trans h'.leap)
    have helapsed := h.elapsed.symm.trans h'.elapsed
    rw [hleap] at helapsed
    exact ⟨add_right_cancel helapsed, hleap⟩
  · rintro ⟨hseconds, hleap⟩
    have hnumber : c.date.dayNumber = c'.date.dayNumber := by rw [h.day, h'.day, hseconds]
    have hdate := h.gregorian.eq_of_dayNumber h'.gregorian hnumber
    -- the sixty-first second is shown by both or by none, so the clocks can be read
    have hlast : c.second = 60 ↔ c'.second = 60 := by rw [h.leap, h'.leap, hleap]
    have helapsed := h.elapsed
    rw [hnumber, hseconds, hleap, ← h'.elapsed] at helapsed
    have hclock : c.hour = c'.hour ∧ c.minute = c'.minute ∧ c.second = c'.second := by
      have hbounds := And.intro h.minute (And.intro h.second (And.intro h'.minute h'.second))
      omega
    exact CivilTime.ext hdate (h.weekday_eq h' hdate) hclock.1 hclock.2.1 hclock.2.2

end CivilTime.IsAt

end SiteManifest.Calendar
