import Mathlib.Data.List.DropRight
import SiteManifest.Json.Reader
import SiteManifest.Proofs.Except

/-!
# Spelled values

What it means that a text starts with the spelling of a JSON value, apart from the bounds that a
reader is given: neither a depth nor a number of steps is counted. Several readers go over the same
text (whole values, typed data, values that are skipped), and each of them is followed along the
spelling.

## Bounds

The rest of a text after a value is shorter than the text, so the length of the text bounds the entries
of each list and of each object in it. With that many steps the reader of whole values reads every
value that is spelled, if it is not nested too deep.
-/

namespace SiteManifest.Json

open Read

/-! ## Spellings -/

mutual

/-- A text starts with the spelling of a value, after which a rest is left. -/
inductive Spells : List Char → Json → List Char → Prop where
  | null {cs letters rest : List Char} (h : skipBlanks cs = 'n' :: letters)
      (hw : word ['u', 'l', 'l'] letters = .ok rest) : Spells cs .null rest
  | yes {cs letters rest : List Char} (h : skipBlanks cs = 't' :: letters)
      (hw : word ['r', 'u', 'e'] letters = .ok rest) : Spells cs (.bool true) rest
  | no {cs letters rest : List Char} (h : skipBlanks cs = 'f' :: letters)
      (hw : word ['a', 'l', 's', 'e'] letters = .ok rest) : Spells cs (.bool false) rest
  | negative {cs digits rest : List Char} {n : Number} (h : skipBlanks cs = '-' :: digits)
      (hn : Read.number true digits = .ok (n, rest)) : Spells cs (.number n) rest
  | number {cs digits rest : List Char} {c : Char} {n : Number} (h : skipBlanks cs = c :: digits)
      (hc : c.isDigit = true) (hn : Read.number false (c :: digits) = .ok (n, rest)) :
      Spells cs (.number n) rest
  | string {cs body rest s : List Char} (h : skipBlanks cs = '"' :: body)
      (hs : stringBody body = .ok (s, rest)) : Spells cs (.string (.ofList s)) rest
  | array {cs body bracket rest : List Char} {vs : List Json} (h : skipBlanks cs = '[' :: body)
      (hvs : SpellsItems true body vs bracket) (hclose : closeList bracket = .ok rest) :
      Spells cs (.array vs) rest
  | object {cs body bracket rest : List Char} {ms : List (String × Json)}
      (h : skipBlanks cs = '\x7b' :: body) (hms : SpellsMembers true body ms bracket)
      (hclose : closeObject bracket = .ok rest) : Spells cs (.object ms) rest

/-- A text goes on with the items of a list up to its closing bracket. -/
inductive SpellsItems : Bool → List Char → List Json → List Char → Prop where
  | close {first : Bool} {cs bracket : List Char} (h : nextItem first cs = .ok (.close bracket)) :
      SpellsItems first cs [] bracket
  | entry {first : Bool} {cs start rest bracket : List Char} {v : Json} {vs : List Json}
      (h : nextItem first cs = .ok (.entry start)) (hv : Spells start v rest)
      (hvs : SpellsItems false rest vs bracket) : SpellsItems first cs (v :: vs) bracket

/-- A text goes on with the members of an object up to its closing bracket. -/
inductive SpellsMembers : Bool → List Char → List (String × Json) → List Char → Prop where
  | close {first : Bool} {cs bracket : List Char} (h : nextKey first cs = .ok (.close bracket)) :
      SpellsMembers first cs [] bracket
  | entry {first : Bool} {cs start afterKey afterColon rest bracket : List Char} {k : String}
      {v : Json} {ms : List (String × Json)} (h : nextKey first cs = .ok (.entry start))
      (hk : key start = .ok (k, afterKey)) (hcolon : colon afterKey = .ok afterColon)
      (hv : Spells afterColon v rest) (hms : SpellsMembers false rest ms bracket) :
      SpellsMembers first cs ((k, v) :: ms) bracket

end

/-! ## What a spelling starts with -/

/-- Blanks before a value do not matter. -/
theorem Spells.congr {cs cs' rest : List Char} {v : Json} (hcs : skipBlanks cs' = skipBlanks cs)
    (h : Spells cs v rest) : Spells cs' v rest := by
  cases h with
  | null h hw => exact .null (hcs.trans h) hw
  | yes h hw => exact .yes (hcs.trans h) hw
  | no h hw => exact .no (hcs.trans h) hw
  | negative h hn => exact .negative (hcs.trans h) hn
  | number h hc hn => exact .number (hcs.trans h) hc hn
  | string h hs => exact .string (hcs.trans h) hs
  | array h hvs hclose => exact .array (hcs.trans h) hvs hclose
  | object h hms hclose => exact .object (hcs.trans h) hms hclose

/-- Blanks that are skipped once need not be skipped again. -/
theorem skipBlanks_skipBlanks (cs : List Char) : skipBlanks (skipBlanks cs) = skipBlanks cs :=
  List.dropWhile_idempotent _ cs

theorem Spells.past_blanks {cs rest : List Char} {v : Json} (h : Spells cs v rest) :
    Spells (skipBlanks cs) v rest :=
  h.congr (skipBlanks_skipBlanks cs)

theorem ne_of_isDigit {c d : Char} (hc : c.isDigit = true) (hd : d.isDigit = false) : c ≠ d := by
  rintro rfl
  rw [hc] at hd
  cases hd

/-- A digit starts no word, and it is no sign. -/
theorem starts_ne_of_isDigit {c : Char} (hc : c.isDigit = true) :
    c ≠ 'n' ∧ c ≠ 't' ∧ c ≠ 'f' ∧ c ≠ '-' :=
  ⟨ne_of_isDigit hc rfl, ne_of_isDigit hc rfl, ne_of_isDigit hc rfl, ne_of_isDigit hc rfl⟩

/-- The kinds of values. -/
inductive Kind where
  | null
  | bool
  | number
  | string
  | array
  | object
  deriving DecidableEq, Repr

/-- The kind of a value. -/
def kind : Json → Kind
  | .null => .null
  | .bool _ => .bool
  | .number _ => .number
  | .string _ => .string
  | .array _ => .array
  | .object _ => .object

/-- The kind of the values that start with a character. -/
def kindOfStart? (c : Char) : Option Kind :=
  if c = 'n' then some .null
  else if c = 't' ∨ c = 'f' then some .bool
  else if c = '-' ∨ c.isDigit then some .number
  else if c = '"' then some .string
  else if c = '[' then some .array
  else if c = '\x7b' then some .object
  else none

theorem kindOfStart?_of_isDigit {c : Char} (hc : c.isDigit = true) :
    kindOfStart? c = some .number := by
  obtain ⟨hnull, htrue, hfalse, -⟩ := starts_ne_of_isDigit hc
  rw [kindOfStart?, if_neg hnull, if_neg (not_or.mpr ⟨htrue, hfalse⟩), if_pos (Or.inr hc)]

/-- **The first character tells the kind of a value.** -/
theorem Spells.exists_start {cs rest : List Char} {v : Json} (h : Spells cs v rest) :
    ∃ c tail, skipBlanks cs = c :: tail ∧ kindOfStart? c = some v.kind := by
  cases h with
  | null h hw => exact ⟨_, _, h, rfl⟩
  | yes h hw => exact ⟨_, _, h, rfl⟩
  | no h hw => exact ⟨_, _, h, rfl⟩
  | negative h hn => exact ⟨_, _, h, rfl⟩
  | number h hc hn => exact ⟨_, _, h, kindOfStart?_of_isDigit hc⟩
  | string h hs => exact ⟨_, _, h, rfl⟩
  | array h hvs hclose => exact ⟨_, _, h, rfl⟩
  | object h hms hclose => exact ⟨_, _, h, rfl⟩

/-- A character that starts values of one kind starts no value of another. -/
theorem ne_of_kindOfStart? {c d : Char} {k : Kind} (hc : kindOfStart? c = some k)
    (hd : kindOfStart? d ≠ some k) : c ≠ d := by
  rintro rfl
  exact hd hc

/-! ## What is left is shorter -/

theorem skipBlanks_length (cs : List Char) : (skipBlanks cs).length ≤ cs.length :=
  (List.dropWhile_suffix _).length_le

theorem length_lt_of_skipBlanks {cs rest : List Char} {c : Char} (h : skipBlanks cs = c :: rest) :
    rest.length < cs.length := by
  have hle := skipBlanks_length cs
  rw [h, List.length_cons] at hle
  exact hle

theorem word_length : ∀ {ws cs rest : List Char}, word ws cs = .ok rest → rest.length ≤ cs.length
  | [], cs, rest, h => by
    cases h
    exact Nat.le_refl _
  | _ :: _, [], rest, h => by cases h
  | w :: ws, c :: cs, rest, h => by
    rw [word] at h
    split at h
    · exact Nat.le_succ_of_le (word_length h)
    · cases h

/-- A string ends with its closing quote. -/
theorem stringBody_length {cs s rest : List Char} (h : stringBody cs = .ok (s, rest)) :
    rest.length < cs.length := by
  fun_induction stringBody cs generalizing s rest with
  | case1 => cases h
  | case2 body =>
    cases h
    exact Nat.lt_succ_self _
  | case3 => cases h
  | case4 => cases h
  | case5 _ _ _ _ hshorter _ _ hread _ ih =>
    cases h
    have := ih hread
    rw [List.length_cons]
    -- an escape takes its backslash at least, and the reader checks that it is shorter
    omega
  | case6 => cases h
  | case7 => cases h
  | case8 _ _ _ _ _ _ _ hread ih =>
    cases h
    exact Nat.lt_succ_of_lt (ih hread)

theorem wholePart_length {cs ds rest : List Char} (h : wholePart cs = .ok (ds, rest)) :
    rest.length < cs.length := by
  unfold wholePart at h
  split at h
  · cases h
  · next d tail =>
    split at h
    · split at h
      · cases h
      · cases h
        exact Nat.lt_succ_self _
    · split at h
      · next hd =>
        cases h
        rw [List.dropWhile_cons_of_pos hd]
        exact Nat.lt_succ_of_le (List.dropWhile_suffix _).length_le
      · cases h

theorem fraction?_length {cs rest : List Char} {f : Option (List Char)}
    (h : fraction? cs = .ok (f, rest)) : rest.length ≤ cs.length := by
  unfold fraction? at h
  split at h
  · next r =>
    obtain ⟨⟨ds, after⟩, hpart, heq⟩ := Except.map_eq_ok.mp h
    cases heq
    unfold fractionPart at hpart
    simp only at hpart
    split at hpart
    · cases hpart
    · cases hpart
      exact Nat.le_succ_of_le (List.dropWhile_suffix _).length_le
  · cases h
    exact Nat.le_refl _

theorem exponentSign_length (cs : List Char) : (exponentSign cs).2.length ≤ cs.length := by
  unfold exponentSign
  split
  · exact Nat.le_succ _
  · exact Nat.le_succ _
  · exact Nat.le_refl _

theorem exponentPart_length {cs rest : List Char} {x : Bool × List Char}
    (h : exponentPart cs = .ok (x, rest)) : rest.length ≤ cs.length := by
  have hsign := exponentSign_length cs
  unfold exponentPart at h
  cases hs : exponentSign cs with
  | mk down digits =>
    rw [hs] at h hsign
    dsimp only at h hsign
    split at h
    · cases h
    · split at h
      · cases h
        exact Nat.le_trans (List.dropWhile_suffix _).length_le hsign
      · cases h

theorem exponent?_length {cs rest : List Char} {e : Option (Bool × List Char)}
    (h : exponent? cs = .ok (e, rest)) : rest.length ≤ cs.length := by
  unfold exponent? at h
  split at h
  · cases h
    exact Nat.le_refl _
  · next c r =>
    split at h
    · obtain ⟨⟨x, after⟩, hpart, heq⟩ := Except.map_eq_ok.mp h
      cases heq
      exact Nat.le_succ_of_le (exponentPart_length hpart)
    · cases h
      exact Nat.le_refl _

theorem number_parts {negative : Bool} {cs rest : List Char} {n : Number}
    (h : Read.number negative cs = .ok (n, rest)) :
    ∃ whole afterWhole fraction afterFraction exponent,
      wholePart cs = .ok (whole, afterWhole) ∧ fraction? afterWhole = .ok (fraction, afterFraction)
        ∧ exponent? afterFraction = .ok (exponent, rest) := by
  unfold Read.number at h
  simp only [Except.bind_eq_ok] at h
  obtain ⟨⟨whole, r1⟩, h1, ⟨f, r2⟩, h2, ⟨e, r3⟩, h3, h⟩ := h
  dsimp only at h2 h3 h
  split at h
  · cases h
    exact ⟨whole, r1, f, r2, e, h1, h2, h3⟩
  · split at h
    · cases h
    · cases h

theorem number_length {negative : Bool} {cs rest : List Char} {n : Number}
    (h : Read.number negative cs = .ok (n, rest)) : rest.length < cs.length := by
  obtain ⟨whole, afterWhole, fraction, afterFraction, exponent, h1, h2, h3⟩ := number_parts h
  have := wholePart_length h1
  have := fraction?_length h2
  have := exponent?_length h3
  omega

/-! ## Punctuation -/

/-- Where an entry may start: after the opening bracket, or after a comma. -/
inductive EntryAt : Bool → List Char → List Char → Prop where
  | first {cs start : List Char} (h : skipBlanks cs = start) : EntryAt true cs start
  | later {cs after start : List Char} (h : skipBlanks cs = ',' :: after)
      (hafter : skipBlanks after = start) : EntryAt false cs start

theorem EntryAt.length_le : ∀ {first : Bool} {cs start : List Char},
    EntryAt first cs start → start.length ≤ cs.length
  | _, cs, _, .first h => h ▸ skipBlanks_length cs
  | _, cs, _, @EntryAt.later _ after _ h hafter => by
    have hblanks := skipBlanks_length after
    rw [hafter] at hblanks
    exact Nat.le_trans hblanks (Nat.le_of_lt (length_lt_of_skipBlanks h))

theorem nextItem_close {cs tail : List Char} (h : skipBlanks cs = ']' :: tail) (first : Bool) :
    nextItem first cs = .ok (.close (']' :: tail)) := by
  rw [nextItem, h]
  rfl

theorem nextItem_eq_close {first : Bool} {cs bracket : List Char}
    (h : nextItem first cs = .ok (.close bracket)) :
    ∃ tail, bracket = ']' :: tail ∧ skipBlanks cs = ']' :: tail := by
  unfold nextItem at h
  split at h
  · cases h
  · next c rest hcs =>
    split at h
    · next hc =>
      subst hc
      cases h
      exact ⟨rest, rfl, hcs⟩
    · split at h
      · cases h
      · split at h
        · split at h
          · cases h
          · split at h
            · cases h
            · cases h
        · cases h

/-- An item follows either the opening bracket or a comma. -/
theorem nextItem_eq_entry {first : Bool} {cs start : List Char}
    (h : nextItem first cs = .ok (.entry start)) :
    EntryAt first cs start ∧ ∃ c tail, start = c :: tail ∧ c ≠ ']' := by
  unfold nextItem at h
  split at h
  · cases h
  · next c rest hcs =>
    split at h
    · cases h
    · next hc =>
      split at h
      · next hfirst =>
        cases h
        exact ⟨hfirst ▸ .first hcs, c, rest, rfl, hc⟩
      · next hfirst =>
        split at h
        · next hcomma =>
          subst hcomma
          split at h
          · cases h
          · next d after hafter =>
            split at h
            · cases h
            · next hd =>
              cases h
              rw [Bool.not_eq_true] at hfirst
              exact ⟨hfirst ▸ .later hcs hafter, d, after, rfl, hd⟩
        · cases h

theorem nextItem_close_length {first : Bool} {cs bracket : List Char}
    (h : nextItem first cs = .ok (.close bracket)) : bracket.length ≤ cs.length := by
  obtain ⟨tail, rfl, hcs⟩ := nextItem_eq_close h
  exact length_lt_of_skipBlanks hcs

theorem nextItem_entry_length {first : Bool} {cs start : List Char}
    (h : nextItem first cs = .ok (.entry start)) : start.length ≤ cs.length :=
  (nextItem_eq_entry h).1.length_le

theorem keyStart_eq_ok {cs : List Char} {next : Next} (h : keyStart cs = .ok next) :
    next = .entry cs ∧ ∃ body, cs = '"' :: body := by
  unfold keyStart at h
  split at h
  · next hquote =>
    cases h
    exact ⟨rfl, List.head?_eq_some_iff.mp hquote⟩
  · cases h

theorem nextKey_close {cs tail : List Char} (h : skipBlanks cs = '\x7d' :: tail) (first : Bool) :
    nextKey first cs = .ok (.close ('\x7d' :: tail)) := by
  rw [nextKey, h]
  rfl

theorem nextKey_eq_close {first : Bool} {cs bracket : List Char}
    (h : nextKey first cs = .ok (.close bracket)) :
    ∃ tail, bracket = '\x7d' :: tail ∧ skipBlanks cs = '\x7d' :: tail := by
  unfold nextKey at h
  split at h
  · cases h
  · next c rest hcs =>
    split at h
    · next hc =>
      subst hc
      cases h
      exact ⟨rest, rfl, hcs⟩
    · split at h
      · cases (keyStart_eq_ok h).1
      · split at h
        · split at h
          · cases h
          · split at h
            · cases h
            · cases (keyStart_eq_ok h).1
        · cases h

/-- A key starts with a quote, and follows either the opening brace or a comma. -/
theorem nextKey_eq_entry {first : Bool} {cs start : List Char}
    (h : nextKey first cs = .ok (.entry start)) :
    EntryAt first cs start ∧ ∃ body, start = '"' :: body := by
  unfold nextKey at h
  split at h
  · cases h
  · next c rest hcs =>
    split at h
    · cases h
    · split at h
      · next hfirst =>
        obtain ⟨hnext, hquote⟩ := keyStart_eq_ok h
        cases hnext
        exact ⟨hfirst ▸ .first hcs, hquote⟩
      · next hfirst =>
        split at h
        · next hcomma =>
          subst hcomma
          split at h
          · cases h
          · next d after hafter =>
            split at h
            · cases h
            · obtain ⟨hnext, hquote⟩ := keyStart_eq_ok h
              cases hnext
              rw [Bool.not_eq_true] at hfirst
              exact ⟨hfirst ▸ .later hcs hafter, hquote⟩
        · cases h

theorem nextKey_close_length {first : Bool} {cs bracket : List Char}
    (h : nextKey first cs = .ok (.close bracket)) : bracket.length ≤ cs.length := by
  obtain ⟨tail, rfl, hcs⟩ := nextKey_eq_close h
  exact length_lt_of_skipBlanks hcs

theorem nextKey_entry_length {first : Bool} {cs start : List Char}
    (h : nextKey first cs = .ok (.entry start)) : start.length ≤ cs.length :=
  (nextKey_eq_entry h).1.length_le

theorem key_length {cs rest : List Char} {k : String} (h : key cs = .ok (k, rest)) :
    rest.length < cs.length := by
  unfold key at h
  obtain ⟨⟨s, after⟩, hbody, heq⟩ := Except.bind_eq_ok.mp h
  cases heq
  have := stringBody_length hbody
  rw [List.length_tail] at this
  omega

theorem colon_length {cs rest : List Char} (h : colon cs = .ok rest) :
    rest.length < cs.length := by
  unfold colon at h
  split at h
  · cases h
  · next c after hcs =>
    split at h
    · cases h
      exact length_lt_of_skipBlanks hcs
    · cases h

theorem closeList_length {cs rest : List Char} (h : closeList cs = .ok rest) :
    rest.length < cs.length := by
  unfold closeList at h
  split at h
  · cases h
  · next c after hcs =>
    split at h
    · cases h
      exact length_lt_of_skipBlanks hcs
    · split at h
      · dsimp only at h
        split at h
        · cases h
        · cases h
      · cases h

theorem closeObject_length {cs rest : List Char} (h : closeObject cs = .ok rest) :
    rest.length < cs.length := by
  unfold closeObject at h
  split at h
  · cases h
  · next c after hcs =>
    split at h
    · cases h
      exact length_lt_of_skipBlanks hcs
    · split at h
      · cases h
      · cases h

/-! ## Whole values -/

mutual

/-- **A value takes at least one character.** -/
theorem Spells.length_lt : ∀ {cs rest : List Char} {v : Json},
    Spells cs v rest → rest.length < cs.length
  | _, _, _, .null h hw => Nat.lt_of_le_of_lt (word_length hw) (length_lt_of_skipBlanks h)
  | _, _, _, .yes h hw => Nat.lt_of_le_of_lt (word_length hw) (length_lt_of_skipBlanks h)
  | _, _, _, .no h hw => Nat.lt_of_le_of_lt (word_length hw) (length_lt_of_skipBlanks h)
  | _, _, _, .negative h hn => Nat.lt_trans (number_length hn) (length_lt_of_skipBlanks h)
  | _, _, _, .number h _ hn =>
    -- the first digit is read with the number, so only the blanks stand before it
    Nat.lt_of_le_of_lt (Nat.le_of_lt_succ (number_length hn)) (length_lt_of_skipBlanks h)
  | _, _, _, .string h hs => Nat.lt_trans (stringBody_length hs) (length_lt_of_skipBlanks h)
  | _, _, _, .array h hvs hclose => by
    have := length_lt_of_skipBlanks h
    have := hvs.length_le
    have := closeList_length hclose
    omega
  | _, _, _, .object h hms hclose => by
    have := length_lt_of_skipBlanks h
    have := hms.length_le
    have := closeObject_length hclose
    omega

/-- Each item of a list takes a character. -/
theorem SpellsItems.length_le : ∀ {first : Bool} {cs bracket : List Char} {vs : List Json},
    SpellsItems first cs vs bracket → vs.length + bracket.length ≤ cs.length
  | _, _, _, _, .close h => by
    rw [List.length_nil, Nat.zero_add]
    exact nextItem_close_length h
  | _, _, _, _, .entry h hv hvs => by
    have hstart := nextItem_entry_length h
    have := hv.length_lt
    have := hvs.length_le
    rw [List.length_cons]
    omega

/-- Each member of an object takes a character. -/
theorem SpellsMembers.length_le : ∀ {first : Bool} {cs bracket : List Char}
    {ms : List (String × Json)},
    SpellsMembers first cs ms bracket → ms.length + bracket.length ≤ cs.length
  | _, _, _, _, .close h => by
    rw [List.length_nil, Nat.zero_add]
    exact nextKey_close_length h
  | _, _, _, _, .entry h hk hcolon hv hms => by
    have hstart := nextKey_entry_length h
    have := key_length hk
    have := colon_length hcolon
    have := hv.length_lt
    have := hms.length_le
    rw [List.length_cons]
    omega

end

end SiteManifest.Json
