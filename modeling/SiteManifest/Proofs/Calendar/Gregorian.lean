import Mathlib.Order.Monotone.Basic
import Mathlib.Tactic.IntervalCases
import SiteManifest.Calendar.Date

/-!
# The Gregorian calendar

The rules of the calendar, said for themselves: which years have a leap day, how long the months are, and
that the days are numbered in their order, from the first day of 1970 on. The main statements are that the
date of a day is a date of the calendar with this number, and that no other date has it.

## Two ways to count

The rules count the days of a year from its January, the calculation from its March. They meet at the first
of March, whose number in any year is `marchFirst`: New Year is 306 days behind the March before it.
-/

namespace SiteManifest.Calendar

attribute [ext] Date

/-! ## Years and months -/

/-- Every fourth year has a leap day, but of the centuries only every fourth one. -/
def IsLeapYear (year : Int) : Prop := 4 ∣ year ∧ (¬100 ∣ year ∨ 400 ∣ year)

instance (year : Int) : Decidable (IsLeapYear year) :=
  inferInstanceAs (Decidable (4 ∣ year ∧ (¬100 ∣ year ∨ 400 ∣ year)))

/-- The number of days of a year. -/
def daysOfYear (year : Int) : Nat := if IsLeapYear year then 366 else 365

/-- The number of days of a month. -/
def daysOfMonth (year : Int) (month : Nat) : Nat :=
  if month = 2 then if IsLeapYear year then 29 else 28
  else if month = 4 ∨ month = 6 ∨ month = 9 ∨ month = 11 then 30 else 31

/-- A date that there is in the calendar. -/
structure Date.IsGregorian (d : Date) : Prop where
  month : 1 ≤ d.month ∧ d.month ≤ 12
  day : 1 ≤ d.day ∧ d.day ≤ daysOfMonth d.year d.month

/-! ## Numbers of days -/

/-- The number of the first day of a year: the days of all years since 1970, or less those of all years
until then. -/
def newYear (year : Int) : Int :=
  let later := (List.range (year - 1970).toNat).map fun n : Nat => daysOfYear (1970 + n)
  let sooner := (List.range (1970 - year).toNat).map fun n : Nat => daysOfYear (1969 - n)
  later.sum - sooner.sum

/-- The days of a year before a month. -/
def daysBeforeMonth (year : Int) (month : Nat) : Nat :=
  ((List.range' 1 (month - 1)).map (daysOfMonth year)).sum

/-- The number of the day of a date. -/
def Date.dayNumber (d : Date) : Int :=
  newYear d.year + daysBeforeMonth d.year d.month + (d.day - 1)

theorem newYear_succ (year : Int) : newYear (year + 1) = newYear year + daysOfYear year := by
  simp only [newYear]
  by_cases h : 1970 ≤ year
  · have hlater : (year + 1 - 1970).toNat = (year - 1970).toNat + 1 := by omega
    have hsooner : (1970 - (year + 1)).toNat = (1970 - year).toNat := by omega
    have hlast : (1970 : Int) + (year - 1970).toNat = year := by omega
    rw [hlater, hsooner, List.range_succ, List.map_append, List.sum_append, List.map_singleton,
      List.sum_singleton, hlast]
    omega
  · have hlater : (year + 1 - 1970).toNat = (year - 1970).toNat := by omega
    have hsooner : (1970 - year).toNat = (1970 - (year + 1)).toNat + 1 := by omega
    have hlast : (1969 : Int) - (1970 - (year + 1)).toNat = year := by omega
    rw [hlater, hsooner, List.range_succ, List.map_append, List.sum_append, List.map_singleton,
      List.sum_singleton, hlast]
    omega

theorem newYear_mono {year later : Int} (h : year ≤ later) : newYear year ≤ newYear later := by
  induction later, h using Int.leInduction with
  | base => exact Int.le_refl _
  | succ later _ ih =>
    rw [newYear_succ]
    omega

theorem daysBeforeMonth_succ (year : Int) {month : Nat} (h : 1 ≤ month) :
    daysBeforeMonth year (month + 1) = daysBeforeMonth year month + daysOfMonth year month := by
  have hcount : month + 1 - 1 = month - 1 + 1 := by omega
  have hlast : 1 + (month - 1) = month := by omega
  unfold daysBeforeMonth
  rw [hcount, List.range'_1_concat, List.map_append, List.sum_append, List.map_singleton,
    List.sum_singleton, hlast]

theorem daysBeforeMonth_mono (year : Int) : Monotone (daysBeforeMonth year) := by
  refine monotone_nat_of_le_succ fun month => ?_
  obtain rfl | hpos := Nat.eq_zero_or_pos month
  · exact Nat.le_refl 0
  · rw [daysBeforeMonth_succ year hpos]
    exact Nat.le_add_right _ _

theorem daysBeforeMonth_one (year : Int) : daysBeforeMonth year 1 = 0 := rfl

theorem daysBeforeMonth_two (year : Int) : daysBeforeMonth year 2 = 31 := rfl

theorem daysOfMonth_two (year : Int) : daysOfMonth year 2 = daysOfYear year - 337 := by
  unfold daysOfMonth daysOfYear
  rw [if_pos rfl]
  split <;> rfl

/-- From March on five months have 153 days. -/
theorem daysOfMonth_add_three (year : Int) {month : Nat} (h : month < 10) :
    (153 * (month + 1) + 2) / 5 = (153 * month + 2) / 5 + daysOfMonth year (month + 3) := by
  unfold daysOfMonth
  interval_cases month <;> rfl

theorem daysBeforeMonth_add_three (year : Int) {month : Nat} (h : month < 11) :
    daysBeforeMonth year (month + 3) = daysOfYear year - 306 + (153 * month + 2) / 5 := by
  induction month with
  | zero =>
    rw [daysBeforeMonth_succ year (by omega), daysBeforeMonth_two, daysOfMonth_two]
    unfold daysOfYear
    split <;> rfl
  | succ month ih =>
    rw [show month + 1 + 3 = month + 3 + 1 by omega, daysBeforeMonth_succ year (by omega),
      ih (by omega), daysOfMonth_add_three year (by omega), Nat.add_assoc]

/-- The months make up the year. -/
theorem daysBeforeMonth_thirteen (year : Int) : daysBeforeMonth year 13 = daysOfYear year := by
  rw [daysBeforeMonth_add_three year (by decide : 10 < 11)]
  unfold daysOfYear
  split <;> rfl

/-! ## A date has its number alone -/

namespace Date

variable {d d' : Date}

/-- The day of a date comes before the next month. -/
theorem IsGregorian.lt_daysBeforeMonth (h : d.IsGregorian) {month : Nat} (hmonth : d.month < month) :
    daysBeforeMonth d.year d.month + (d.day - 1) < daysBeforeMonth d.year month := by
  have hnext := daysBeforeMonth_mono d.year (Nat.succ_le_of_lt hmonth)
  rw [Nat.succ_eq_add_one, daysBeforeMonth_succ d.year h.month.1] at hnext
  have hday := h.day
  omega

/-- The number of a date lies in its year. -/
theorem IsGregorian.dayNumber_mem (h : d.IsGregorian) :
    newYear d.year ≤ d.dayNumber ∧ d.dayNumber < newYear (d.year + 1) := by
  have hlast := h.lt_daysBeforeMonth (Nat.lt_succ_of_le h.month.2)
  rw [daysBeforeMonth_thirteen] at hlast
  have hday := h.day
  rw [newYear_succ]
  unfold dayNumber
  omega

theorem IsGregorian.year_le (h : d.IsGregorian) (h' : d'.IsGregorian)
    (hnumber : d.dayNumber = d'.dayNumber) : d.year ≤ d'.year := by
  by_contra hlater
  have hle := newYear_mono (by omega : d'.year + 1 ≤ d.year)
  have hmem := h.dayNumber_mem
  have hmem' := h'.dayNumber_mem
  omega

theorem IsGregorian.month_le (h' : d'.IsGregorian) (hyear : d.year = d'.year)
    (hnumber : d.dayNumber = d'.dayNumber) (hday : 1 ≤ d.day) : d.month ≤ d'.month := by
  by_contra hlater
  have hlt := h'.lt_daysBeforeMonth (not_le.mp hlater)
  have hday' := h'.day
  unfold dayNumber at hnumber
  rw [hyear] at hnumber
  omega

/-- **No two dates have one number.** -/
theorem IsGregorian.eq_of_dayNumber (h : d.IsGregorian) (h' : d'.IsGregorian)
    (hnumber : d.dayNumber = d'.dayNumber) : d = d' := by
  have hyear : d.year = d'.year :=
    le_antisymm (h.year_le h' hnumber) (h'.year_le h hnumber.symm)
  have hmonth : d.month = d'.month :=
    le_antisymm (h'.month_le hyear hnumber h.day.1) (h.month_le hyear.symm hnumber.symm h'.day.1)
  have hday : d.day = d'.day := by
    unfold dayNumber at hnumber
    rw [hyear, hmonth] at hnumber
    omega
  exact Date.ext hyear hmonth hday

end Date

/-! ## Years from March -/

/-- The number of the first of March of a year. -/
def marchFirst (year : Int) : Int := eraStart + 365 * year + year / 4 - year / 100 + year / 400

/-- The days of a year from March are those of the year that it ends in. -/
theorem marchFirst_succ (year : Int) :
    marchFirst (year + 1) = marchFirst year + daysOfYear (year + 1) := by
  have hlength : daysOfYear (year + 1) = if IsLeapYear (year + 1) then 366 else 365 := rfl
  rw [hlength]
  unfold marchFirst
  by_cases h : IsLeapYear (year + 1)
  · rw [if_pos h]
    unfold IsLeapYear at h
    omega
  · rw [if_neg h]
    unfold IsLeapYear at h
    omega

theorem newYear_eq (year : Int) : newYear year = marchFirst (year - 1) + 306 := by
  induction year using Int.inductionOn' with
  | b => exact 1970
  | zero => decide
  | succ k _ ih =>
    have hmarch := marchFirst_succ (k - 1)
    rw [Int.sub_add_cancel] at hmarch
    rw [newYear_succ, ih, Int.add_sub_cancel, hmarch]
    omega
  | pred k _ ih =>
    have hmarch := marchFirst_succ (k - 1 - 1)
    have hyear := newYear_succ (k - 1)
    rw [Int.sub_add_cancel] at hmarch hyear
    omega

/-- In the months from March on. -/
theorem dayNumber_of_march {year : Int} {month day : Nat} (h : month < 10) :
    (⟨year, month + 3, day⟩ : Date).dayNumber
      = marchFirst year + ((153 * month + 2) / 5 : Nat) + (day - 1) := by
  have hmarch := marchFirst_succ (year - 1)
  rw [Int.sub_add_cancel] at hmarch
  unfold Date.dayNumber
  dsimp only
  rw [daysBeforeMonth_add_three year (by omega), newYear_eq, hmarch]
  have hlong : 306 ≤ daysOfYear year := by
    unfold daysOfYear
    split <;> decide
  omega

/-- In January and February, which end the year that started in March. -/
theorem dayNumber_of_january {year : Int} {month day : Nat} (h : 10 ≤ month) (h' : month < 12) :
    (⟨year + 1, month - 9, day⟩ : Date).dayNumber
      = marchFirst year + ((153 * month + 2) / 5 : Nat) + (day - 1) := by
  unfold Date.dayNumber
  dsimp only
  rw [newYear_eq, Int.add_sub_cancel]
  interval_cases month
  · rw [daysBeforeMonth_one]
    omega
  · rw [daysBeforeMonth_two]
    omega

theorem marchFirst_add_era (era year : Int) :
    marchFirst (400 * era + year) = marchFirst year + daysOfEra * era := by
  unfold marchFirst daysOfEra
  omega

theorem daysOfYear_add_era (era year : Int) : daysOfYear (400 * era + year) = daysOfYear year := by
  have hleap : IsLeapYear (400 * era + year) ↔ IsLeapYear year := by
    unfold IsLeapYear
    omega
  unfold daysOfYear
  simp only [hleap]

/-! ## The date of a day -/

/-- The days of an era are those of its years. Each of the three divisions may come out one too large at
the leap day that only the last century, group or year has. -/
theorem yearOfEra_spec {day : Nat} (h : day < daysOfEra) :
    (yearOfEra day).1 < 400
      ∧ eraStart + day = marchFirst (yearOfEra day).1 + (yearOfEra day).2
      ∧ (yearOfEra day).2 < daysOfYear ((yearOfEra day).1 + 1) := by
  unfold yearOfEra
  dsimp only
  unfold daysOfEra at h
  generalize hcentury : min 3 (day / 36524) = century
  obtain ⟨rest, hrest⟩ : ∃ rest, rest = day - 36524 * century := ⟨_, rfl⟩
  have hcentury' : century ≤ 3 ∧ day = 36524 * century + rest
      ∧ (rest < 36524 ∨ century = 3 ∧ rest = 36524) := by omega
  rw [← hrest]
  generalize hgroup : rest / 1461 = group
  generalize hleft : rest % 1461 = left
  have hgroup' : group ≤ 24 ∧ rest = 1461 * group + left ∧ left < 1461
      ∧ (group < 24 ∨ left < 1460 ∨ century = 3) := by omega
  generalize hyear : min 3 (left / 365) = year
  obtain ⟨dayOfYear, hday⟩ : ∃ dayOfYear, dayOfYear = left - 365 * year := ⟨_, rfl⟩
  have hyear' : year ≤ 3 ∧ left = 365 * year + dayOfYear
      ∧ (dayOfYear < 365 ∨ year = 3 ∧ dayOfYear = 365) := by omega
  rw [← hday]
  clear hcentury hrest hgroup hleft hyear hday
  refine ⟨by omega, ?_, ?_⟩
  · have hfour : ((100 * century + 4 * group + year : Nat) : Int) / 4 = 25 * century + group := by
      omega
    have hhundred : ((100 * century + 4 * group + year : Nat) : Int) / 100 = century := by omega
    have hlong : ((100 * century + 4 * group + year : Nat) : Int) / 400 = 0 := by omega
    unfold marchFirst
    rw [hfour, hhundred, hlong]
    omega
  · unfold daysOfYear
    split
    · omega
    · next hleap =>
      unfold IsLeapYear at hleap
      omega

theorem monthOfYear_spec {day : Nat} (h : day < 366) :
    (monthOfYear day).1 < 12 ∧ 1 ≤ (monthOfYear day).2
      ∧ (153 * (monthOfYear day).1 + 2) / 5 + (monthOfYear day).2 = day + 1
      ∧ day < (153 * ((monthOfYear day).1 + 1) + 2) / 5 := by
  unfold monthOfYear
  dsimp only
  omega

/-- The parts that the date of a day is made of: the year from March, the month in it and the day. -/
theorem exists_parts (number : Int) :
    ∃ (year : Int) (dayOfYear : Nat), number = marchFirst year + dayOfYear
      ∧ dayOfYear < daysOfYear (year + 1)
      ∧ Date.ofDayNumber number
        = if (monthOfYear dayOfYear).1 < 10 then
            ⟨year, (monthOfYear dayOfYear).1 + 3, (monthOfYear dayOfYear).2⟩
          else ⟨year + 1, (monthOfYear dayOfYear).1 - 9, (monthOfYear dayOfYear).2⟩ := by
  obtain ⟨era, hera⟩ : ∃ era, era = (number - eraStart).fdiv daysOfEra := ⟨_, rfl⟩
  obtain ⟨day, hday⟩ : ∃ day, day = ((number - eraStart).fmod daysOfEra).toNat := ⟨_, rfl⟩
  have hsplit : number = eraStart + day + daysOfEra * era ∧ day < daysOfEra := by
    rw [Int.fdiv_eq_ediv_of_nonneg _ (by decide)] at hera
    rw [Int.fmod_eq_emod_of_nonneg _ (by decide)] at hday
    unfold daysOfEra at hera hday ⊢
    omega
  obtain ⟨-, hnumber, hlast⟩ := yearOfEra_spec hsplit.2
  refine ⟨400 * era + (yearOfEra day).1, (yearOfEra day).2, ?_, ?_, ?_⟩
  · rw [marchFirst_add_era, hsplit.1, hnumber]
    omega
  · rw [Int.add_assoc, daysOfYear_add_era]
    exact hlast
  · unfold Date.ofDayNumber
    rw [← hera, ← hday]

theorem isGregorian_of_march {year : Int} {month day : Nat} (h : month < 10) (hday : 1 ≤ day)
    (hlast : (153 * month + 2) / 5 + day ≤ (153 * (month + 1) + 2) / 5) :
    (⟨year, month + 3, day⟩ : Date).IsGregorian := by
  rw [daysOfMonth_add_three year h] at hlast
  have hmonth : 1 ≤ month + 3 ∧ month + 3 ≤ 12 := by omega
  have hlength : day ≤ daysOfMonth year (month + 3) := by omega
  exact ⟨hmonth, hday, hlength⟩

theorem isGregorian_of_january {year : Int} {month day : Nat} (h : 10 ≤ month) (h' : month < 12)
    (hday : 1 ≤ day) (hlast : (153 * month + 2) / 5 + day ≤ (153 * (month + 1) + 2) / 5)
    (hyear : (153 * month + 2) / 5 + day ≤ daysOfYear (year + 1)) :
    (⟨year + 1, month - 9, day⟩ : Date).IsGregorian := by
  have hmonth : 1 ≤ month - 9 ∧ month - 9 ≤ 12 := by omega
  refine ⟨hmonth, hday, ?_⟩
  interval_cases month
  · have hlong : daysOfMonth (year + 1) 1 = 31 := rfl
    show day ≤ daysOfMonth (year + 1) 1
    omega
  · show day ≤ daysOfMonth (year + 1) 2
    rw [daysOfMonth_two]
    omega

/-- **The date of a day is a date of the calendar, and has the number of the day.** -/
theorem Date.ofDayNumber_spec (number : Int) :
    (ofDayNumber number).IsGregorian ∧ (ofDayNumber number).dayNumber = number := by
  obtain ⟨year, dayOfYear, hnumber, hyear, hdate⟩ := exists_parts number
  have hlong : daysOfYear (year + 1) ≤ 366 := by
    unfold daysOfYear
    split <;> decide
  obtain ⟨hmonth, hday, hsum, hlast⟩ := monthOfYear_spec (hyear.trans_le hlong)
  rw [hdate]
  split
  · next hmarch =>
    refine ⟨isGregorian_of_march hmarch hday (by omega), ?_⟩
    rw [dayNumber_of_march hmarch]
    omega
  · next hmarch =>
    refine ⟨isGregorian_of_january (by omega) hmonth hday (by omega) (by omega), ?_⟩
    rw [dayNumber_of_january (by omega) hmonth]
    omega

/-- **Every day has exactly one date.** -/
theorem Date.IsGregorian.eq_ofDayNumber {d : Date} (h : d.IsGregorian) :
    d = ofDayNumber d.dayNumber := by
  obtain ⟨hgregorian, hnumber⟩ := ofDayNumber_spec d.dayNumber
  exact h.eq_of_dayNumber hgregorian hnumber.symm

end SiteManifest.Calendar
