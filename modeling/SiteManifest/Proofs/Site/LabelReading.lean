import SiteManifest.Proofs.Site.LabelParts

/-!
# Reading labels

A label whose date shows the whole year and whose time shows the seconds tells the second of its moment.

## Part by part

The words that a name can be are no beginnings of each other, and a numeral is followed by a text that starts
with no digit. So each part of a label can be told from what follows it, and two civil times that are shown
by the same text agree on all that its parts show.
-/

namespace SiteManifest

open Calendar Decimal

namespace LabelPart

/-! ## What parts tell -/

/-- Whether two civil times have what a part shows in common. -/
def Agree (c c' : CivilTime) : LabelPart → Prop
  | .text _ => True
  | .weekday => c.weekday = c'.weekday
  | .month => c.date.month = c'.date.month
  | .shortMonth => c.date.month = c'.date.month
  | .monthNumber => c.date.month = c'.date.month
  | .day => c.date.day = c'.date.day
  | .year => c.date.year = c'.date.year
  | .shortYear => c.date.year % 100 = c'.date.year % 100
  | .hour => c.hour % 12 = c'.hour % 12
  | .minute => c.minute = c'.minute
  | .second => c.second = c'.second
  | .half => c.hour < 12 ↔ c'.hour < 12

/-- Whether a part ends in a numeral. -/
def isNumeral : LabelPart → Bool
  | .text _ => false
  | .weekday => false
  | .month => false
  | .shortMonth => false
  | .half => false
  | _ => true

/-- Whether parts start with a text that starts with no digit. -/
def startPlain : List LabelPart → Bool
  | .text s :: _ => s.toList.head?.any fun c => !c.isDigit
  | _ => false

/-- Whether each numeral is followed by a text that starts with no digit. -/
def areReadable : List LabelPart → Bool
  | [] => true
  | p :: ps => (!p.isNumeral || startPlain ps) && areReadable ps

/-! ## Words -/

/-- One of several words can be told from what follows it if no word is the beginning of another one. -/
theorem word_cancel {words : List String} (spell : String → List Char) (hnodup : words.Nodup)
    (hfree : ∀ a ∈ words, ∀ b ∈ words, spell a <+: spell b → a = b) {i j : Nat} {a b : String}
    {rest rest' : List Char} (ha : words[i]? = some a) (hb : words[j]? = some b)
    (heq : spell a ++ rest = spell b ++ rest') : i = j ∧ rest = rest' := by
  have hmem := List.mem_of_getElem? ha
  have hmem' := List.mem_of_getElem? hb
  have hword : a = b := by
    have hstart : spell a <+: spell b ++ rest' := heq ▸ List.prefix_append _ _
    obtain h | h := List.prefix_or_prefix_of_prefix hstart (List.prefix_append _ _)
    · exact hfree a hmem b hmem' h
    · exact (hfree b hmem' a hmem h).symm
  subst hword
  obtain ⟨hi, -⟩ := List.getElem?_eq_some_iff.mp ha
  exact ⟨(List.getElem?_inj hi hnodup).mp (ha.trans hb.symm), List.append_cancel_left heq⟩

theorem weekdayNames_nodup : weekdayNames.Nodup := by decide

theorem monthNames_nodup : monthNames.Nodup := by decide

theorem weekdayNames_free :
    ∀ a ∈ weekdayNames, ∀ b ∈ weekdayNames, a.toList <+: b.toList → a = b := by
  decide

theorem monthNames_free :
    ∀ a ∈ monthNames, ∀ b ∈ monthNames, a.toList <+: b.toList → a = b := by
  decide

theorem monthNames_take_free :
    ∀ a ∈ monthNames, ∀ b ∈ monthNames, a.toList.take 3 <+: b.toList.take 3 → a = b := by
  decide

/-! ## Years -/

theorem isDigit_of_mem_yearSign {year : Int} : ∀ c ∈ yearSign year, c.isDigit = false := by
  unfold yearSign
  split
  · exact List.forall_mem_singleton.mpr rfl
  · split
    · exact List.forall_mem_singleton.mpr rfl
    · exact List.forall_mem_nil _

theorem yearSign_eq_minus {year : Int} : yearSign year = ['-'] ↔ year < 0 := by
  unfold yearSign
  split
  · next hneg => exact iff_of_true rfl hneg
  · next hneg =>
    refine iff_of_false ?_ hneg
    split <;> decide

/-- A year is told by its sign and its numeral. -/
theorem year_eq_of_sign {year year' : Int} (hsign : yearSign year = yearSign year')
    (habs : year.natAbs = year'.natAbs) : year = year' := by
  have hneg : year < 0 ↔ year' < 0 := by
    rw [← yearSign_eq_minus, hsign, yearSign_eq_minus]
  omega

/-! ## A part and what follows it -/

/-- **A part can be told from what follows it**, and tells what it shows. -/
theorem Shows.cancel {c c' : CivilTime} {p : LabelPart} {cs cs' rest rest' : List Char}
    (h : p.Shows c cs) (h' : p.Shows c' cs')
    (hstop : p.isNumeral = true → Stops rest ∧ Stops rest') (heq : cs ++ rest = cs' ++ rest') :
    p.Agree c c' ∧ rest = rest' := by
  cases h with
  | text =>
    cases h'
    exact ⟨trivial, List.append_cancel_left heq⟩
  | weekday hname =>
    cases h' with
    | weekday hname' =>
      exact word_cancel String.toList weekdayNames_nodup weekdayNames_free hname hname' heq
  | month hi hname =>
    cases h' with
    | month hi' hname' =>
      obtain ⟨hsame, hrest⟩ :=
        word_cancel String.toList monthNames_nodup monthNames_free hname hname' heq
      exact ⟨by rw [Agree, hi, hi', hsame], hrest⟩
  | shortMonth hi hname =>
    cases h' with
    | shortMonth hi' hname' =>
      obtain ⟨hsame, hrest⟩ := word_cancel (fun name => name.toList.take 3) monthNames_nodup
        monthNames_take_free hname hname' heq
      exact ⟨by rw [Agree, hi, hi', hsame], hrest⟩
  | monthNumber h =>
    cases h' with
    | monthNumber h' => exact h.cancel h' (hstop rfl).1 (hstop rfl).2 heq
  | day h =>
    cases h' with
    | day h' => exact h.cancel h' (hstop rfl).1 (hstop rfl).2 heq
  | year h =>
    cases h' with
    | year h' =>
      rw [List.append_assoc, List.append_assoc] at heq
      obtain ⟨hsign, heq⟩ := h.sign_cancel isDigit_of_mem_yearSign isDigit_of_mem_yearSign h'
        (by decide) (by decide) heq
      obtain ⟨habs, hrest⟩ := h.cancel h' (hstop rfl).1 (hstop rfl).2 heq
      exact ⟨year_eq_of_sign hsign habs, hrest⟩
  | shortYear hn h =>
    cases h' with
    | shortYear hn' h' =>
      obtain ⟨hsame, hrest⟩ := h.cancel h' (hstop rfl).1 (hstop rfl).2 heq
      exact ⟨by rw [Agree, ← hn, ← hn', hsame], hrest⟩
  | hour _ hhour h =>
    cases h' with
    | hour _ hhour' h' =>
      obtain ⟨hsame, hrest⟩ := h.cancel h' (hstop rfl).1 (hstop rfl).2 heq
      exact ⟨by rw [Agree, ← hhour, ← hhour', hsame], hrest⟩
  | minute h =>
    cases h' with
    | minute h' => exact h.cancel h' (hstop rfl).1 (hstop rfl).2 heq
  | second h =>
    cases h' with
    | second h' => exact h.cancel h' (hstop rfl).1 (hstop rfl).2 heq
  | morning hmorning =>
    cases h' with
    | morning hmorning' => exact ⟨iff_of_true hmorning hmorning', List.append_cancel_left heq⟩
    | afternoon => cases heq
  | afternoon hafternoon =>
    cases h' with
    | morning => cases heq
    | afternoon hafternoon' =>
      exact ⟨iff_of_false (by omega) (by omega), List.append_cancel_left heq⟩

/-! ## All parts -/

theorem stops_of_startPlain {c : CivilTime} {ps : List LabelPart} {cs : List Char}
    (hplain : startPlain ps = true) (h : ShowAll c ps cs) : Stops cs := by
  cases h with
  | nil => cases hplain
  | cons h _ =>
    cases h with
    | text s =>
      obtain ⟨d, hd, hdigit⟩ := (Option.any_eq_true _ _).mp hplain
      intro x hx
      rw [List.head?_append, hd] at hx
      cases hx
      simpa using hdigit
    | _ => cases hplain

/-- **Two civil times that are shown by one text agree on all that is shown.** The induction takes off the
first part. -/
theorem ShowAll.agree {c c' : CivilTime} {ps : List LabelPart} {cs : List Char}
    (hread : areReadable ps = true) (h : ShowAll c ps cs) (h' : ShowAll c' ps cs) :
    ∀ p ∈ ps, p.Agree c c' := by
  induction ps generalizing cs with
  | nil =>
    intro p hp
    cases hp
  | cons p ps ih =>
    rw [areReadable, Bool.and_eq_true, Bool.or_eq_true, Bool.not_eq_true'] at hread
    obtain ⟨hplain, hread⟩ := hread
    generalize heq : cs = ds at h'
    cases h with
    | cons hp hps =>
      cases h' with
      | cons hp' hps' =>
        have hstop (hnumeral : p.isNumeral = true) := hplain.resolve_left (by rw [hnumeral]; decide)
        obtain ⟨hagree, rfl⟩ := hp.cancel hp' (fun hnumeral =>
          ⟨stops_of_startPlain (hstop hnumeral) hps, stops_of_startPlain (hstop hnumeral) hps'⟩) heq
        intro q hq
        obtain rfl | hq := List.mem_cons.mp hq
        · exact hagree
        · exact ih hread hps hps' q hq

end LabelPart

/-! ## Labels -/

open LabelPart

theorem LabelFormat.areReadable_parts (f : LabelFormat) : areReadable f.parts = true := by
  obtain ⟨date, time⟩ := f
  cases date <;> cases time <;> decide

theorem Style.mem_dateParts {style : Style} (h : style ≠ .short) :
    (.month ∈ style.dateParts ∨ .shortMonth ∈ style.dateParts) ∧ .day ∈ style.dateParts
      ∧ .year ∈ style.dateParts := by
  cases style with
  | short => exact absurd rfl h
  | _ => decide

theorem Style.mem_timeParts {style : Style} (h : style ≠ .short) :
    .hour ∈ style.timeParts ∧ .minute ∈ style.timeParts ∧ .second ∈ style.timeParts
      ∧ .half ∈ style.timeParts := by
  cases style with
  | short => exact absurd rfl h
  | _ => decide

/-- A whole date and a time with seconds leave nothing open. -/
theorem LabelFormat.eq_of_agree {f : LabelFormat} (hdate : f.date ≠ .short) (htime : f.time ≠ .short)
    {c c' : CivilTime} {m m' : Moment} (h : c.IsAt m) (h' : c'.IsAt m')
    (hagree : ∀ p ∈ f.parts, p.Agree c c') : c = c' := by
  have hdates {p : LabelPart} (hp : p ∈ f.date.dateParts) : p.Agree c c' :=
    hagree p (List.mem_append_left _ hp)
  have htimes {p : LabelPart} (hp : p ∈ f.time.timeParts) : p.Agree c c' :=
    hagree p (List.mem_append_right _ (List.mem_cons_of_mem _ hp))
  obtain ⟨hmonths, hday, hyear⟩ := Style.mem_dateParts hdate
  obtain ⟨hhour, hminute, hsecond, hhalf⟩ := Style.mem_timeParts htime
  have hmonth : c.date.month = c'.date.month := hmonths.elim hdates hdates
  have hdate := Date.ext (hdates hyear) hmonth (hdates hday)
  have hclock : c.hour = c'.hour := by
    have htwelfth : c.hour % 12 = c'.hour % 12 := htimes hhour
    have hmorning : c.hour < 12 ↔ c'.hour < 12 := htimes hhalf
    have hbounds := And.intro h.hour h'.hour
    omega
  exact CivilTime.ext hdate (h.weekday_eq h' hdate) hclock (htimes hminute) (htimes hsecond)

/-- **A label with the whole year and the seconds tells the second of its moment**, leap seconds apart. -/
theorem label_eq_iff (l : LastUpdated) (hdate : l.format.date ≠ .short)
    (htime : l.format.time ≠ .short) {m m' : Moment} (h : m.isValid = true)
    (h' : m'.isValid = true) :
    l.label m = l.label m' ↔ m.seconds = m'.seconds ∧ m.isLeap = m'.isLeap := by
  have hcivil := Moment.isAt_civil h
  have hcivil' := Moment.isAt_civil h'
  have hshown := l.format.showAll_text h
  have hshown' := l.format.showAll_text h'
  unfold LastUpdated.label
  rw [String.append_right_inj, ← hcivil.eq_iff hcivil']
  constructor
  · intro hsame
    rw [hsame] at hshown
    exact LabelFormat.eq_of_agree hdate htime hcivil hcivil'
      (hshown.agree l.format.areReadable_parts hshown')
  · intro hsame
    rw [hsame] at hshown
    exact String.toList_inj.mp (hshown.unique hshown')

/-- Two moments in one second, and the leap second behind it. -/
theorem label_eq_iff_leap :
    let l : LastUpdated := ⟨"Updated at", ⟨.medium, .long⟩⟩
    let last : Moment := ⟨1483228799, 0⟩
    let later : Moment := ⟨1483228799, 999999999⟩
    let leap : Moment := ⟨1483228799, 1000000000⟩
    last.isValid = true ∧ later.isValid = true ∧ leap.isValid = true
      ∧ l.label last = l.label later ∧ l.label last ≠ l.label leap := by
  intro l last later leap
  have hdate : l.format.date ≠ .short := by decide
  have htime : l.format.time ≠ .short := by decide
  have hlast : last.isValid = true := by decide
  have hlater : later.isValid = true := by decide
  have hleap : leap.isValid = true := by decide
  have hearly : last.isLeap = false := by decide
  have hearly' : later.isLeap = false := by decide
  have hdiffer : leap.isLeap = true := by decide
  have hsame := label_eq_iff l hdate htime hlast hlater
  have hleaps := label_eq_iff l hdate htime hlast hleap
  rw [hearly, hearly'] at hsame
  rw [hearly, hdiffer] at hleaps
  exact ⟨hlast, hlater, hleap, hsame.mpr ⟨rfl, rfl⟩, mt hleaps.mp fun h => nomatch h.2⟩

end SiteManifest
