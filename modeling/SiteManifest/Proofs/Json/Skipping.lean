import SiteManifest.Json.Skip
import SiteManifest.Proofs.Json.Spelling

/-!
# Skipping spelled values

A value that is spelled can be skipped, and skipping it ends where reading it ends. Skipping is done by
a machine with a stack of open brackets. It is followed along the spelling: a value leaves the stack as
it was, and two steps for each character of the value are enough.
-/

namespace SiteManifest.Json

open Read

/-! ## Strings -/

theorem skipString_quote (rest : List Char) : skipString ('"' :: rest) = .ok rest := by
  rw [skipString, if_pos rfl]

theorem skipString_escape {cs after : List Char} (h : skipEscape cs = .ok after) :
    skipString ('\\' :: cs) = skipString after := by
  rw [skipString, if_neg (by decide), if_pos rfl]
  split
  · next f hf =>
    rw [h] at hf
    cases hf
  · next after' hafter =>
    rw [h] at hafter
    cases hafter
    rfl

theorem skipString_plain {cs : List Char} {c : Char} (hquote : c ≠ '"') (hslash : c ≠ '\\')
    (hcontrol : ¬c.toNat < 0x20) : skipString (c :: cs) = skipString cs := by
  rw [skipString, if_neg hquote, if_neg hslash, if_neg hcontrol]

theorem skipEscape_unicode {cs after : List Char} {n : Nat} (h : hexQuad cs = .ok (n, after)) :
    skipEscape ('u' :: cs) = .ok after := by
  rw [skipEscape, if_pos rfl, h]
  rfl

/-- A pair of surrogates is skipped as two escapes. -/
theorem skipString_unicodeEscape {cs after : List Char} {c : Char}
    (h : unicodeEscape cs = .ok (c, after)) : skipString ('\\' :: 'u' :: cs) = skipString after := by
  unfold unicodeEscape at h
  obtain ⟨⟨n, rest⟩, hquad, h⟩ := Except.bind_eq_ok.mp h
  rw [skipString_escape (skipEscape_unicode hquad)]
  dsimp only at h
  split at h
  · cases h
  · split at h
    · cases h
      rfl
    · split at h
      · cases h
      · next tail =>
        split at h
        · cases h
        · next digits =>
          obtain ⟨⟨low, end_⟩, hlow, h⟩ := Except.bind_eq_ok.mp h
          dsimp only at h
          split at h
          · -- the machine does not know that the second escape belongs to the first one
            obtain ⟨-, rfl⟩ := Prod.mk.inj (Except.ok.inj h)
            exact skipString_escape (skipEscape_unicode hlow)
          · cases h
        · cases h
      · cases h

theorem skipString_of_escape {cs after : List Char} {c : Char} (h : escape cs = .ok (c, after)) :
    skipString ('\\' :: cs) = skipString after := by
  unfold escape at h
  split at h
  · cases h
  · next e rest =>
    split at h
    · next hu =>
      subst hu
      exact skipString_unicodeEscape h
    · next hu =>
      split at h
      · next hsimple =>
        cases h
        refine skipString_escape ?_
        rw [skipEscape, if_neg hu, hsimple]
        rfl
      · cases h

/-- A string that is read is skipped. -/
theorem skipString_of_stringBody {cs s rest : List Char} (h : stringBody cs = .ok (s, rest)) :
    skipString cs = .ok rest := by
  fun_induction stringBody cs generalizing s rest with
  | case1 => cases h
  | case2 body =>
    cases h
    exact skipString_quote _
  | case3 => cases h
  | case4 => cases h
  | case5 _ _ _ hescape _ _ _ hread _ ih =>
    cases h
    rw [skipString_of_escape hescape]
    exact ih hread
  | case6 => cases h
  | case7 => cases h
  | case8 _ _ hquote hslash hcontrol _ _ hread ih =>
    cases h
    rw [skipString_plain hquote hslash hcontrol]
    exact ih hread

/-! ## Numbers -/

theorem exponentSign_snd (cs : List Char) : (exponentSign cs).2
    = if cs.head? = some '+' ∨ cs.head? = some '-' then cs.tail else cs := by
  fun_cases exponentSign cs with
  | case1 r => rfl
  | case2 r => rfl
  | case3 _ hplus hminus =>
    refine (if_neg ?_).symm
    rintro (hhead | hhead)
    · obtain ⟨r, rfl⟩ := List.head?_eq_some_iff.mp hhead
      exact hplus r rfl
    · obtain ⟨r, rfl⟩ := List.head?_eq_some_iff.mp hhead
      exact hminus r rfl

theorem skipExponent_of_exponentPart {cs rest : List Char} {x : Bool × List Char}
    (h : exponentPart cs = .ok (x, rest)) : skipExponent cs = .ok rest := by
  unfold exponentPart at h
  unfold skipExponent
  rw [← exponentSign_snd]
  dsimp only at h ⊢
  split at h
  · cases h
  · next d digits hdigits =>
    split at h
    · next hd =>
      cases h
      rw [hdigits]
      exact if_pos hd
    · cases h

theorem skipNumberTail_of_exponent? {cs rest : List Char} {e : Option (Bool × List Char)}
    (hpoint : cs.head? ≠ some '.') (h : exponent? cs = .ok (e, rest)) :
    skipNumberTail cs = .ok rest := by
  unfold exponent? at h
  unfold skipNumberTail
  split at h
  · cases h
    rfl
  · next c r =>
    have hc : c ≠ '.' := fun heq => hpoint (congrArg some heq)
    split at h
    · next hletter =>
      obtain ⟨⟨x, after⟩, hpart, heq⟩ := Except.map_eq_ok.mp h
      cases heq
      simp only [if_neg hc, if_pos hletter]
      exact skipExponent_of_exponentPart hpart
    · next hletter =>
      cases h
      simp only [if_neg hc, if_neg hletter]

/-- The digits after a point are skipped, and the exponent after them. -/
theorem skipNumberTail_of_fractionPart {cs ds after rest : List Char}
    {e : Option (Bool × List Char)} (hds : fractionPart cs = .ok (ds, after))
    (he : exponent? after = .ok (e, rest)) : skipNumberTail ('.' :: cs) = .ok rest := by
  unfold fractionPart at hds
  dsimp only at hds
  split at hds
  · cases hds
  · next hdigits =>
    cases hds
    -- the reader takes all digits and wants one at least; the machine looks at the first one
    have hhead : cs.head?.any Char.isDigit = true := by
      cases cs with
      | nil => exact absurd rfl hdigits
      | cons c r =>
        cases hc : c.isDigit with
        | false =>
          rw [List.takeWhile_cons_of_neg (by rw [hc]; exact Bool.false_ne_true)] at hdigits
          exact absurd rfl hdigits
        | true => exact hc
    unfold skipNumberTail
    simp only [if_true, if_pos hhead]
    unfold exponent? at he
    split at he
    · next hafter =>
      cases he
      rw [hafter]
    · next c r hafter =>
      rw [hafter]
      split at he
      · next hletter =>
        obtain ⟨⟨x, end_⟩, hpart, heq⟩ := Except.map_eq_ok.mp he
        cases heq
        simp only [if_pos hletter]
        exact skipExponent_of_exponentPart hpart
      · next hletter =>
        cases he
        simp only [if_neg hletter, hafter]

theorem skipNumber_of_wholePart {cs ds after : List Char} (h : wholePart cs = .ok (ds, after)) :
    skipNumber cs = skipNumberTail after := by
  unfold wholePart at h
  unfold skipNumber
  split at h
  · cases h
  · next d rest =>
    split at h
    · next hzero =>
      split at h
      · cases h
      · next hdigit =>
        cases h
        simp only [if_pos hzero, if_neg hdigit]
    · next hzero =>
      split at h
      · next hdigit =>
        cases h
        simp only [if_neg hzero, if_pos hdigit]
      · cases h

/-- A number that is read is skipped. -/
theorem skipNumber_of_number {negative : Bool} {cs rest : List Char} {n : Number}
    (h : Read.number negative cs = .ok (n, rest)) : skipNumber cs = .ok rest := by
  obtain ⟨_, after, _, _, _, hwhole, hfraction, hexponent⟩ := number_parts h
  rw [skipNumber_of_wholePart hwhole]
  unfold fraction? at hfraction
  split at hfraction
  · obtain ⟨⟨ds, r⟩, hpart, heq⟩ := Except.map_eq_ok.mp hfraction
    cases heq
    exact skipNumberTail_of_fractionPart hpart hexponent
  · next hpoint =>
    cases hfraction
    refine skipNumberTail_of_exponent? ?_ hexponent
    intro hhead
    obtain ⟨r, rfl⟩ := List.head?_eq_some_iff.mp hhead
    exact hpoint r rfl

theorem skipScalar_of_isDigit {c : Char} {tail rest : List Char} (hc : c.isDigit = true)
    (h : skipNumber (c :: tail) = .ok rest) : skipScalar c tail = .ok (some rest) := by
  obtain ⟨hnull, htrue, hfalse, hminus⟩ := starts_ne_of_isDigit hc
  unfold skipScalar
  simp only [if_neg hnull, if_neg htrue, if_neg hfalse, if_neg hminus, if_pos hc]
  exact Except.bind_of_ok h _

/-! ## The stack of brackets -/

/-- What is left to do after a value: the open brackets go on, or there are none. -/
def resume (steps : Nat) (stack : List Bracket) (rest : List Char) : Except Fault (List Char) :=
  if stack.isEmpty then .ok rest else skipOn steps (.inside true) stack rest

section

variable {cs : List Char} (n : Nat) (stack : List Bracket)

theorem skipOn_value_congr {cs' : List Char} (h : skipBlanks cs' = skipBlanks cs) :
    skipOn (n + 1) .value stack cs' = skipOn (n + 1) .value stack cs := by
  rw [skipOn, skipOn, h]

theorem skipOn_scalar {c : Char} {tail rest : List Char} (h : skipBlanks cs = c :: tail)
    (hscalar : skipScalar c tail = .ok (some rest)) :
    skipOn (n + 1) .value stack cs = resume n stack rest := by
  rw [skipOn, h]
  exact Except.bind_of_ok hscalar _

theorem skipOn_list {body : List Char} (h : skipBlanks cs = '[' :: body) :
    skipOn (n + 1) .value stack cs = skipOn n (.inside false) (.list :: stack) body := by
  rw [skipOn, h]
  rfl

theorem skipOn_object {body : List Char} (h : skipBlanks cs = '\x7b' :: body) :
    skipOn (n + 1) .value stack cs = skipOn n (.inside false) (.object :: stack) body := by
  rw [skipOn, h]
  rfl

theorem skipOn_close {b : Bracket} {tail : List Char} (h : skipBlanks cs = b.closer :: tail)
    (comma : Bool) : skipOn (n + 1) (.inside comma) (b :: stack) cs = resume n stack tail := by
  rw [skipOn, h]
  exact if_pos rfl

theorem skipOn_first {b : Bracket} {c : Char} {tail start : List Char}
    (h : skipBlanks cs = c :: tail) (hc : c ≠ b.closer) (hkey : skipKey b (c :: tail) = .ok start) :
    skipOn (n + 1) (.inside false) (b :: stack) cs = skipOn n .value (b :: stack) start := by
  rw [skipOn, h]
  simp only [if_neg hc]
  exact Except.bind_of_ok hkey _

theorem skipOn_comma {b : Bracket} {tail start : List Char} (h : skipBlanks cs = ',' :: tail)
    (hkey : skipKey b tail = .ok start) :
    skipOn (n + 1) (.inside true) (b :: stack) cs = skipOn n .value (b :: stack) start := by
  rw [skipOn, h]
  have hc : ',' ≠ b.closer := by cases b <;> decide
  simp only [if_neg hc]
  exact Except.bind_of_ok hkey _

end

/-! ## Entries -/

/-- An item is looked for with the blanks before it, which do not matter. -/
theorem skipOn_nextItem {first : Bool} {cs start : List Char}
    (h : nextItem first cs = .ok (.entry start)) (n : Nat) (stack : List Bracket) :
    skipOn (n + 2) (.inside !first) (.list :: stack) cs
      = skipOn (n + 1) .value (.list :: stack) start := by
  obtain ⟨hat, c, tail, rfl, hc⟩ := nextItem_eq_entry h
  cases hat with
  | first hcs => exact skipOn_first _ _ hcs hc rfl
  | @later _ after _ hcs hafter =>
    have hkey : skipKey .list after = .ok after := rfl
    -- the machine starts the item at the comma, the reader after the blanks
    refine (skipOn_comma (n + 1) stack hcs hkey).trans ?_
    rw [← hafter]
    exact skipOn_value_congr _ _ (skipBlanks_skipBlanks after).symm

theorem skipKey_of_key {cs body afterKey value : List Char} {k : String}
    (h : skipBlanks cs = '"' :: body) (hkey : key ('"' :: body) = .ok (k, afterKey))
    (hcolon : colon afterKey = .ok value) : skipKey .object cs = .ok value := by
  obtain ⟨⟨s, after⟩, hbody, heq⟩ := Except.bind_eq_ok.mp hkey
  cases heq
  unfold skipKey
  simp only [h, if_true]
  exact (Except.bind_of_ok (skipString_of_stringBody hbody) _).trans hcolon

theorem skipOn_nextKey {first : Bool} {cs start afterKey value : List Char} {k : String}
    (h : nextKey first cs = .ok (.entry start)) (hkey : key start = .ok (k, afterKey))
    (hcolon : colon afterKey = .ok value) (n : Nat) (stack : List Bracket) :
    skipOn (n + 1) (.inside !first) (.object :: stack) cs
      = skipOn n .value (.object :: stack) value := by
  obtain ⟨hat, body, rfl⟩ := nextKey_eq_entry h
  cases hat with
  | first hcs =>
    exact skipOn_first n stack hcs (by decide) (skipKey_of_key rfl hkey hcolon)
  | later hcs hafter => exact skipOn_comma n stack hcs (skipKey_of_key hafter hkey hcolon)

/-! ## Values -/

/-- A bracket is skipped by skipping its next entry and then what stands after the entry. -/
theorem skipOn_of_entry {b : Bracket} {comma : Bool} {cs start after rest : List Char} {k k' : Nat}
    (hnext : ∀ n stack, skipOn (n + 2) (.inside comma) (b :: stack) cs
      = skipOn (n + 1) .value (b :: stack) start)
    (hskip : ∀ n stack, skipOn (n + k + 1) .value stack start = resume n stack after)
    (hskip' : ∀ n stack, skipOn (n + k') (.inside true) (b :: stack) after = resume n stack rest)
    (n : Nat) (stack : List Bracket) :
    skipOn (n + (k' + k + 2)) (.inside comma) (b :: stack) cs = resume n stack rest :=
  calc skipOn (n + (k' + k + 2)) (.inside comma) (b :: stack) cs
      = skipOn (n + k' + k + 2) (.inside comma) (b :: stack) cs := by
        rw [Nat.add_assoc n k' k, Nat.add_assoc n]
    _ = skipOn (n + k' + k + 1) .value (b :: stack) start := hnext _ _
    _ = resume (n + k') (b :: stack) after := hskip _ _
    _ = resume n stack rest := hskip' n stack

theorem closeList_eq {bracket tail rest : List Char} (h : bracket = ']' :: tail)
    (hclose : closeList bracket = .ok rest) : rest = tail := by
  subst h
  cases hclose
  rfl

theorem closeObject_eq {bracket tail rest : List Char} (h : bracket = '\x7d' :: tail)
    (hclose : closeObject bracket = .ok rest) : rest = tail := by
  subst h
  cases hclose
  rfl

theorem Spells.skipOn_of_scalar {cs tail rest : List Char} {c : Char} {v : Json}
    (hv : Spells cs v rest) (h : skipBlanks cs = c :: tail)
    (hscalar : skipScalar c tail = .ok (some rest)) :
    ∃ k, k + 2 * rest.length + 2 ≤ 2 * cs.length
      ∧ ∀ n stack, skipOn (n + k + 1) .value stack cs = resume n stack rest := by
  have hlt := hv.length_lt
  refine ⟨0, by omega, ?_⟩
  intro n stack
  exact skipOn_scalar n stack h hscalar

mutual

/-- A value is skipped in at most two steps for each of its characters. -/
theorem Spells.skipOn_eq : ∀ {cs rest : List Char} {v : Json}, Spells cs v rest →
    ∃ k, k + 2 * rest.length + 2 ≤ 2 * cs.length
      ∧ ∀ n stack, skipOn (n + k + 1) .value stack cs = resume n stack rest
  | _, _, _, .null h hw => (Spells.null h hw).skipOn_of_scalar h (Except.bind_of_ok hw _)
  | _, _, _, .yes h hw => (Spells.yes h hw).skipOn_of_scalar h (Except.bind_of_ok hw _)
  | _, _, _, .no h hw => (Spells.no h hw).skipOn_of_scalar h (Except.bind_of_ok hw _)
  | _, _, _, .negative h hn =>
    (Spells.negative h hn).skipOn_of_scalar h (Except.bind_of_ok (skipNumber_of_number hn) _)
  | _, _, _, .number h hc hn => (Spells.number h hc hn).skipOn_of_scalar h
    (skipScalar_of_isDigit hc (skipNumber_of_number hn))
  | _, _, _, .string h hs =>
    (Spells.string h hs).skipOn_of_scalar h (Except.bind_of_ok (skipString_of_stringBody hs) _)
  | _, _, _, .array h hvs hclose => by
    obtain ⟨k, hk, hskip⟩ := hvs.skipOn_eq hclose
    have hlt := length_lt_of_skipBlanks h
    refine ⟨k, by omega, ?_⟩
    intro n stack
    rw [skipOn_list _ _ h]
    exact hskip n stack
  | _, _, _, .object h hms hclose => by
    obtain ⟨k, hk, hskip⟩ := hms.skipOn_eq hclose
    have hlt := length_lt_of_skipBlanks h
    refine ⟨k, by omega, ?_⟩
    intro n stack
    rw [skipOn_object _ _ h]
    exact hskip n stack

/-- The items of a list are skipped with its closing bracket. -/
theorem SpellsItems.skipOn_eq : ∀ {first : Bool} {cs bracket rest : List Char} {vs : List Json},
    SpellsItems first cs vs bracket → closeList bracket = .ok rest →
      ∃ k, k + 2 * rest.length ≤ 2 * cs.length
        ∧ ∀ n stack, skipOn (n + k) (.inside !first) (.list :: stack) cs = resume n stack rest
  | _, _, _, _, _, .close h, hclose => by
    obtain ⟨tail, hbracket, hcs⟩ := nextItem_eq_close h
    have hlt := length_lt_of_skipBlanks hcs
    rw [closeList_eq hbracket hclose]
    refine ⟨1, by omega, ?_⟩
    intro n stack
    exact skipOn_close n stack hcs _
  | _, _, _, _, _, .entry h hv hvs, hclose => by
    obtain ⟨k, hle, hskip⟩ := hv.skipOn_eq
    obtain ⟨k', hle', hskip'⟩ := hvs.skipOn_eq hclose
    have hstart := nextItem_entry_length h
    exact ⟨k' + k + 2, by omega, skipOn_of_entry (skipOn_nextItem h) hskip hskip'⟩

/-- The members of an object are skipped with its closing brace. -/
theorem SpellsMembers.skipOn_eq : ∀ {first : Bool} {cs bracket rest : List Char}
    {ms : List (String × Json)}, SpellsMembers first cs ms bracket → closeObject bracket = .ok rest →
      ∃ k, k + 2 * rest.length ≤ 2 * cs.length
        ∧ ∀ n stack, skipOn (n + k) (.inside !first) (.object :: stack) cs = resume n stack rest
  | _, _, _, _, _, .close h, hclose => by
    obtain ⟨tail, hbracket, hcs⟩ := nextKey_eq_close h
    have hlt := length_lt_of_skipBlanks hcs
    rw [closeObject_eq hbracket hclose]
    refine ⟨1, by omega, ?_⟩
    intro n stack
    exact skipOn_close n stack hcs _
  | _, _, _, _, _, .entry h hk hcolon hv hms, hclose => by
    obtain ⟨k, hle, hskip⟩ := hv.skipOn_eq
    obtain ⟨k', hle', hskip'⟩ := hms.skipOn_eq hclose
    have hstart := nextKey_entry_length h
    have hvalue := Nat.lt_trans (colon_length hcolon) (key_length hk)
    have hnext := fun n stack => skipOn_nextKey h hk hcolon (n + 1) stack
    exact ⟨k' + k + 2, by omega, skipOn_of_entry hnext hskip hskip'⟩

end

/-- **A value that is spelled is skipped.** -/
theorem Spells.skipValue_eq_ok {cs rest : List Char} {v : Json} (h : Spells cs v rest) {steps : Nat}
    (hs : cs.length < steps) : skipValue (2 * steps) cs = .ok rest := by
  obtain ⟨k, hk, hskip⟩ := h.skipOn_eq
  obtain ⟨n, hn⟩ : ∃ n, 2 * steps = n + k + 1 := ⟨2 * steps - k - 1, by omega⟩
  rw [skipValue, hn]
  exact hskip n []

end SiteManifest.Json
