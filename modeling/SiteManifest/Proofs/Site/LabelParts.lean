import SiteManifest.Proofs.Calendar.CivilTime
import SiteManifest.Proofs.Decimal.Numeral
import SiteManifest.Site.Label

/-!
# The parts of a label

The styles of a format choose what a label shows and in which order: names, numerals and the texts between
them. What each part shows is said for a civil time; the writing of labels is not needed for it. The main
statement is that the label of a moment shows the civil time of the moment, part by part.
-/

namespace SiteManifest

open Calendar Decimal

/-! ## Parts -/

/-- What a label is made of. -/
inductive LabelPart where
  | text (s : String)
  | weekday
  | month
  | shortMonth
  | monthNumber
  | day
  | year
  | shortYear
  | hour
  | minute
  | second
  | half
  deriving DecidableEq, Repr

/-- The parts of a date. -/
def Style.dateParts : Style → List LabelPart
  | .full => [.weekday, .text ", ", .month, .text " ", .day, .text ", ", .year]
  | .long => [.month, .text " ", .day, .text ", ", .year]
  | .medium => [.shortMonth, .text " ", .day, .text ", ", .year]
  | .short => [.monthNumber, .text "/", .day, .text "/", .shortYear]

/-- The parts of a time of day. -/
def Style.timeParts : Style → List LabelPart
  | .full => [.hour, .text ":", .minute, .text ":", .second, .text " ", .half,
    .text " Coordinated Universal Time"]
  | .long => [.hour, .text ":", .minute, .text ":", .second, .text " ", .half, .text " UTC"]
  | .medium => [.hour, .text ":", .minute, .text ":", .second, .text " ", .half]
  | .short => [.hour, .text ":", .minute, .text " ", .half]

/-- The parts of a date and a time of day. -/
def LabelFormat.parts (f : LabelFormat) : List LabelPart :=
  f.date.dateParts ++ .text (if f.date = .full ∨ f.date = .long then " at " else ", ")
    :: f.time.timeParts

/-- The sign of a year that has not four digits. -/
def yearSign (year : Int) : List Char :=
  if year < 0 then ['-'] else if 9999 < year then ['+'] else []

namespace LabelPart

/-- What a part shows of a civil time. The hours go from one to twelve, twice a day. -/
inductive Shows (c : CivilTime) : LabelPart → List Char → Prop where
  | text (s : String) : Shows c (.text s) s.toList
  | weekday {name : String} (h : weekdayNames[c.weekday]? = some name) :
    Shows c .weekday name.toList
  | month {i : Nat} {name : String} (hi : c.date.month = i + 1) (h : monthNames[i]? = some name) :
    Shows c .month name.toList
  | shortMonth {i : Nat} {name : String} (hi : c.date.month = i + 1)
    (h : monthNames[i]? = some name) : Shows c .shortMonth (name.toList.take 3)
  | monthNumber {ds : List Char} (h : IsNumeral 1 c.date.month ds) : Shows c .monthNumber ds
  | day {ds : List Char} (h : IsNumeral 1 c.date.day ds) : Shows c .day ds
  | year {ds : List Char} (h : IsNumeral 4 c.date.year.natAbs ds) :
    Shows c .year (yearSign c.date.year ++ ds)
  | shortYear {n : Nat} {ds : List Char} (hn : (n : Int) = c.date.year % 100)
    (h : IsNumeral 2 n ds) : Shows c .shortYear ds
  | hour {n : Nat} {ds : List Char} (hn : 1 ≤ n ∧ n ≤ 12) (hhour : n % 12 = c.hour % 12)
    (h : IsNumeral 1 n ds) : Shows c .hour ds
  | minute {ds : List Char} (h : IsNumeral 2 c.minute ds) : Shows c .minute ds
  | second {ds : List Char} (h : IsNumeral 2 c.second ds) : Shows c .second ds
  | morning (h : c.hour < 12) : Shows c .half "AM".toList
  | afternoon (h : 12 ≤ c.hour) : Shows c .half "PM".toList

/-- What parts show of a civil time, one behind the other. -/
inductive ShowAll (c : CivilTime) : List LabelPart → List Char → Prop where
  | nil : ShowAll c [] []
  | cons {p : LabelPart} {ps : List LabelPart} {cs ds : List Char} (h : p.Shows c cs)
    (hs : ShowAll c ps ds) : ShowAll c (p :: ps) (cs ++ ds)

namespace ShowAll

variable {c : CivilTime} {p : LabelPart} {ps qs : List LabelPart} {cs ds : List Char}

theorem single (h : p.Shows c cs) : ShowAll c [p] cs := by
  have hs : ShowAll c [p] (cs ++ []) := .cons h .nil
  rwa [List.append_nil] at hs

theorem append (h : ShowAll c ps cs) (h' : ShowAll c qs ds) : ShowAll c (ps ++ qs) (cs ++ ds) := by
  induction h with
  | nil => exact h'
  | cons h _ ih =>
    rw [List.append_assoc]
    exact .cons h ih

end ShowAll

/-- There is one text for each part of a civil time. -/
theorem Shows.unique {c : CivilTime} {p : LabelPart} {cs cs' : List Char} (h : p.Shows c cs)
    (h' : p.Shows c cs') : cs = cs' := by
  cases h with
  | text =>
    cases h'
    rfl
  | weekday hname =>
    cases h' with
    | weekday hname' => rw [Option.some.inj (hname.symm.trans hname')]
  | month hi hname =>
    cases h' with
    | month hi' hname' =>
      cases Nat.succ.inj (hi.symm.trans hi')
      rw [Option.some.inj (hname.symm.trans hname')]
  | shortMonth hi hname =>
    cases h' with
    | shortMonth hi' hname' =>
      cases Nat.succ.inj (hi.symm.trans hi')
      rw [Option.some.inj (hname.symm.trans hname')]
  | monthNumber h =>
    cases h' with
    | monthNumber h' => exact h.unique h'
  | day h =>
    cases h' with
    | day h' => exact h.unique h'
  | year h =>
    cases h' with
    | year h' => rw [h.unique h']
  | shortYear hn h =>
    cases h' with
    | shortYear hn' h' =>
      cases Int.ofNat.inj (hn.trans hn'.symm)
      exact h.unique h'
  | @hour n _ hn hhour h =>
    cases h' with
    | @hour n' _ hn' hhour' h' =>
      cases (show n = n' by omega)
      exact h.unique h'
  | minute h =>
    cases h' with
    | minute h' => exact h.unique h'
  | second h =>
    cases h' with
    | second h' => exact h.unique h'
  | morning hmorning =>
    cases h' with
    | morning => rfl
    | afternoon hafternoon => omega
  | afternoon hafternoon =>
    cases h' with
    | morning hmorning => omega
    | afternoon => rfl

theorem ShowAll.unique {c : CivilTime} {ps : List LabelPart} {cs cs' : List Char}
    (h : ShowAll c ps cs) (h' : ShowAll c ps cs') : cs = cs' := by
  induction h generalizing cs' with
  | nil =>
    cases h'
    rfl
  | cons h _ ih =>
    cases h' with
    | cons h' hs' => rw [h.unique h', ih hs']

end LabelPart

/-! ## Numerals of a label -/

theorem isNumeral_natText (n : Nat) : IsNumeral 1 n (natText n).toList := by
  unfold natText
  rw [String.toList_ofList]
  exact isNumeral_digitsOf n

theorem isNumeral_twoDigits (n : Nat) : IsNumeral 2 n (twoDigits n).toList := by
  have h := isNumeral_leftpad (by decide : 0 < 2) n
  have hlength : (digitsOf n).length ≤ 1 ↔ n < 10 :=
    Nat.length_toDigits_le_iff (by decide) Nat.one_pos
  have hpos : 0 < (digitsOf n).length := Nat.length_toDigits_pos
  unfold twoDigits natText
  rw [List.leftpad] at h
  split
  · next hsmall =>
    rw [show 2 - (digitsOf n).length = 1 by omega] at h
    rw [String.toList_append, String.toList_ofList]
    simpa using h
  · next hlarge =>
    rw [show 2 - (digitsOf n).length = 0 by omega] at h
    rw [String.toList_ofList]
    exact h

theorem isNumeral_fourDigits (n : Nat) : IsNumeral 4 n (fourDigits n).toList := by
  unfold fourDigits natText
  rw [String.toList_ofList, String.toList_ofList]
  exact isNumeral_leftpad (by decide) n

theorem toList_yearText (year : Int) :
    (yearText year).toList = yearSign year ++ (fourDigits year.natAbs).toList := by
  unfold yearText yearSign
  split
  · rw [String.toList_append]
    rfl
  split
  · rw [String.toList_append]
    rfl
  · rw [List.nil_append]

/-! ## Parts of a label -/

namespace LabelPart

variable {m : Moment}

/-- The name at a place of a table. -/
theorem getElem?_getD_of_lt {names : List String} {i : Nat} (h : i < names.length) :
    names[i]? = some (names[i]?.getD "") := by
  rw [List.getElem?_eq_getElem h]
  rfl

theorem shows_weekday (h : m.isValid = true) :
    weekday.Shows m.civil (weekdayName (Calendar.weekday m.dayNumber)).toList := by
  refine .weekday (getElem?_getD_of_lt ?_)
  have hweek := (Moment.isAt_civil h).weekday
  show m.civil.weekday < 7
  omega

/-- The month of a moment is one of the twelve. -/
theorem exists_month (h : m.isValid = true) :
    ∃ i, m.civil.date.month = i + 1 ∧ monthNames[i]? = some (monthName m.date.month) := by
  obtain ⟨hfirst, hlast⟩ := (Moment.isAt_civil h).gregorian.month
  obtain ⟨i, hi⟩ := Nat.exists_eq_add_of_le' hfirst
  refine ⟨i, hi, ?_⟩
  have hmonth : m.date.month = i + 1 := hi
  unfold monthName
  rw [hmonth, Nat.add_sub_cancel]
  refine getElem?_getD_of_lt ?_
  show i < 12
  omega

theorem shows_month (h : m.isValid = true) :
    month.Shows m.civil (monthName m.date.month).toList := by
  obtain ⟨i, hi, hname⟩ := exists_month h
  exact .month hi hname

theorem shows_shortMonth (h : m.isValid = true) :
    shortMonth.Shows m.civil ((monthName m.date.month).toList.take 3) := by
  obtain ⟨i, hi, hname⟩ := exists_month h
  exact .shortMonth hi hname

theorem shows_year (m : Moment) : year.Shows m.civil (yearText m.date.year).toList := by
  rw [toList_yearText]
  exact .year (isNumeral_fourDigits _)

theorem shows_shortYear (m : Moment) :
    shortYear.Shows m.civil (shortYearText m.date.year).toList := by
  refine .shortYear ?_ (isNumeral_twoDigits _)
  rw [Int.fmod_eq_emod_of_nonneg _ (by decide)]
  exact Int.toNat_of_nonneg (Int.emod_nonneg _ (by decide))

theorem shows_hour (m : Moment) : hour.Shows m.civil (natText (clockHour m.hour)).toList := by
  have hclock : (1 ≤ clockHour m.hour ∧ clockHour m.hour ≤ 12)
      ∧ clockHour m.hour % 12 = m.hour % 12 := by
    unfold clockHour
    split <;> omega
  exact .hour hclock.1 hclock.2 (isNumeral_natText _)

theorem shows_half (m : Moment) : half.Shows m.civil (halfDay m.hour).toList := by
  unfold halfDay
  split
  · next hmorning => exact .morning hmorning
  · next hmorning => exact .afternoon (Nat.le_of_not_lt hmorning)

end LabelPart

/-! ## The label of a moment -/

open LabelPart

variable {m : Moment}

theorem Style.showAll_dateText (style : Style) (h : m.isValid = true) :
    ShowAll m.civil style.dateParts (style.dateText m).toList := by
  have hday : day.Shows m.civil (natText m.date.day).toList := .day (isNumeral_natText _)
  have htail : ShowAll m.civil [.text " ", .day, .text ", ", .year] _ :=
    .cons (.text " ") (.cons hday (.cons (.text ", ") (.single (shows_year m))))
  unfold dateText
  cases style with
  | full =>
    simp only [String.toList_append, List.append_assoc]
    exact .cons (shows_weekday h) (.cons (.text ", ") (.cons (shows_month h) htail))
  | long =>
    simp only [String.toList_append, List.append_assoc]
    exact .cons (shows_month h) htail
  | medium =>
    simp only [String.toList_append, String.toList_ofList, List.append_assoc]
    exact .cons (shows_shortMonth h) htail
  | short =>
    simp only [String.toList_append, List.append_assoc]
    exact .cons (.monthNumber (isNumeral_natText _)) (.cons (.text "/")
      (.cons hday (.cons (.text "/") (.single (shows_shortYear m)))))

theorem Style.showAll_timeText (style : Style) (m : Moment) :
    ShowAll m.civil style.timeParts (style.timeText m).toList := by
  have hminute : minute.Shows m.civil (twoDigits m.minute).toList :=
    .minute (isNumeral_twoDigits _)
  have hsecond : second.Shows m.civil (twoDigits m.second).toList :=
    .second (isNumeral_twoDigits _)
  have hhalf := shows_half m
  have hstart {ps : List LabelPart} {cs : List Char} (hs : ShowAll m.civil ps cs) :
      ShowAll m.civil (.hour :: .text ":" :: .minute :: ps) _ :=
    .cons (shows_hour m) (.cons (.text ":") (.cons hminute hs))
  have hclock {ps : List LabelPart} {cs : List Char} (hs : ShowAll m.civil ps cs) :
      ShowAll m.civil (.hour :: .text ":" :: .minute :: .text ":" :: .second :: .text " " :: ps) _ :=
    hstart (.cons (.text ":") (.cons hsecond (.cons (.text " ") hs)))
  unfold timeText
  cases style with
  | full =>
    simp only [String.toList_append, List.append_assoc]
    exact hclock (.cons hhalf (.single (.text _)))
  | long =>
    simp only [String.toList_append, List.append_assoc]
    exact hclock (.cons hhalf (.single (.text _)))
  | medium =>
    simp only [String.toList_append, List.append_assoc]
    exact hclock (.single hhalf)
  | short =>
    simp only [String.toList_append, List.append_assoc]
    exact hstart (.cons (.text " ") (.single hhalf))

theorem Style.joint_eq (style : Style) :
    style.joint = if style = .full ∨ style = .long then " at " else ", " := by
  cases style <;> rfl

theorem LabelFormat.showAll_text (f : LabelFormat) (h : m.isValid = true) :
    ShowAll m.civil f.parts (f.text m).toList := by
  unfold text
  rw [String.toList_append, String.toList_append, List.append_assoc, Style.joint_eq]
  exact (f.date.showAll_dateText h).append (.cons (.text _) (f.time.showAll_timeText m))

/-- **The label of a moment shows the civil time of the moment**, behind its text and a blank: it is the only
text that does. The date is the only one of the calendar with the number of the day. Nothing but the second
counts, where a leap second is one of its own. -/
theorem civil_time_shown (l : LastUpdated) (h : m.isValid = true) :
    ∃ c : CivilTime, c.IsAt m ∧ (∀ c' : CivilTime, c'.IsAt m → c' = c)
      ∧ (∀ d : Date, d.IsGregorian → d.dayNumber = m.seconds.fdiv 86400 → d = c.date)
      ∧ (∀ cs, ShowAll c l.format.parts cs ↔ cs = (l.format.text m).toList)
      ∧ l.label m = l.text ++ " " ++ l.format.text m
      ∧ ∀ m' : Moment, m'.isValid = true → m'.seconds = m.seconds → m'.isLeap = m.isLeap →
        l.format.text m' = l.format.text m := by
  have hcivil := Moment.isAt_civil h
  have hshown := l.format.showAll_text h
  refine ⟨m.civil, hcivil, ?_, ?_, ?_, rfl, ?_⟩
  · intro c hc
    exact (hc.eq_iff hcivil).mpr ⟨rfl, rfl⟩
  · intro d hd hnumber
    rw [hd.eq_ofDayNumber, hnumber]
    rfl
  · intro cs
    exact ⟨fun hcs => hcs.unique hshown, fun hcs => hcs ▸ hshown⟩
  · intro m' h' hseconds hleap
    have hsame := ((Moment.isAt_civil h').eq_iff hcivil).mpr ⟨hseconds, hleap⟩
    have hshown' := l.format.showAll_text h'
    rw [hsame] at hshown'
    exact String.toList_inj.mp (hshown'.unique hshown)

/-- The leap second at the end of 2016, and the last second of the year before the year 0. -/
theorem civil_time_shown_ends :
    let leap : Moment := ⟨1483228799, 1500000000⟩
    let early : Moment := ⟨-62167219201, 0⟩
    let full : LastUpdated := ⟨"Updated at", ⟨.full, .full⟩⟩
    let long : LastUpdated := ⟨"Updated at", ⟨.long, .short⟩⟩
    leap.isValid = true ∧ early.isValid = true
      ∧ (∃ c : CivilTime, c.IsAt leap ∧ ShowAll c full.format.parts (full.format.text leap).toList)
      ∧ (∃ c : CivilTime, c.IsAt early ∧ ShowAll c long.format.parts (long.format.text early).toList)
      ∧ full.label leap
        = "Updated at Saturday, December 31, 2016 at 11:59:60 PM Coordinated Universal Time"
      ∧ long.label early = "Updated at December 31, -0001 at 11:59 PM" := by
  intro leap early full long
  have hleap : leap.isValid = true := by decide
  have hearly : early.isValid = true := by decide
  obtain ⟨c, hc, -, -, hshown, -⟩ := civil_time_shown full hleap
  obtain ⟨c', hc', -, -, hshown', -⟩ := civil_time_shown long hearly
  exact ⟨hleap, hearly, ⟨c, hc, (hshown _).mpr rfl⟩, ⟨c', hc', (hshown' _).mpr rfl⟩, by decide,
    by decide⟩

end SiteManifest
