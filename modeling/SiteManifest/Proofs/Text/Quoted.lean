import SiteManifest.Text.Blank
import SiteManifest.Text.Quoted

/-!
# What quoting keeps

The quoted form of a text tells the text, whatever follows it: it can be read back character by character,
up to the closing quote. It holds only characters that show, so it is on one line.
-/

namespace SiteManifest.Text

open RangeTable (hexValue hexNumber)

/-! ## Hexadecimal digits -/

theorem hexValue_digitChar : ∀ d < 16, hexValue d.digitChar = d := by decide

theorem hexNumber_append (cs : List Char) (c : Char) :
    hexNumber (cs ++ [c]) = 16 * hexNumber cs + hexValue c := by
  simp [hexNumber, List.foldl_append]

/-- The hexadecimal digits of a natural are read as the natural. The induction cuts off the last digit. -/
theorem hexNumber_toDigits (n : Nat) : hexNumber (Nat.toDigits 16 n) = n := by
  induction n using Nat.strongRecOn with
  | _ n ih =>
    rw [Nat.toDigits_eq_if (by decide)]
    by_cases h : n < 16
    · rw [if_pos h]
      simp [hexNumber, hexValue_digitChar n h]
    · rw [if_neg h, hexNumber_append, ih (n / 16) (by omega),
        hexValue_digitChar _ (Nat.mod_lt n (by decide))]
      omega

theorem exists_digit_of_mem_toDigits {c : Char} {n : Nat} (h : c ∈ Nat.toDigits 16 n) :
    ∃ d < 16, c = d.digitChar := by
  induction n using Nat.strongRecOn with
  | _ n ih =>
    rw [Nat.toDigits_eq_if (by decide)] at h
    by_cases hn : n < 16
    · rw [if_pos hn, List.mem_singleton] at h
      exact ⟨n, hn, h⟩
    · rw [if_neg hn, List.mem_append, List.mem_singleton] at h
      rcases h with h | h
      · exact ih (n / 16) (by omega) h
      · exact ⟨n % 16, Nat.mod_lt n (by decide), h⟩

/-! ## Forms of a character -/

/-- The characters with an escape of their own, each after the letter that stands for it. -/
def escapes : List (Char × Char) :=
  [('0', '\x00'), ('t', '\t'), ('r', '\r'), ('n', '\n'), ('\\', '\\'), ('"', '"')]

/-- A character is quoted by its own escape, by its number, or not at all. -/
theorem quoteChar_cases (c : Char) :
    (∃ k, (k, c) ∈ escapes ∧ quoteChar c = ['\\', k])
      ∨ quoteChar c = codePointEscape c
      ∨ quoteChar c = [c] ∧ c ≠ '\\' ∧ c ≠ '"' ∧ isUnprintable c = false := by
  by_cases hescape : ∃ k, (k, c) ∈ escapes
  · obtain ⟨k, hk⟩ := hescape
    have hquote : ∀ e ∈ escapes, quoteChar e.2 = ['\\', e.1] := by decide
    exact Or.inl ⟨k, hk, hquote (k, c) hk⟩
  · right
    simp only [escapes, List.mem_cons, List.not_mem_nil, Prod.mk.injEq, or_false, exists_or,
      exists_eq_left, not_or] at hescape
    obtain ⟨hzero, htab, hreturn, hline, hslash, hquote⟩ := hescape
    unfold quoteChar
    rw [if_neg hzero, if_neg htab, if_neg hreturn, if_neg hline, if_neg hslash, if_neg hquote]
    cases hshown : isUnprintable c with
    | true => exact Or.inl (if_pos rfl)
    | false => exact Or.inr ⟨if_neg Bool.false_ne_true, hslash, hquote, rfl⟩

/-! ## Reading back -/

/-- Reads one character of a quoted text. A quote ends the text. -/
def readChar : List Char → Option (Char × List Char)
  | [] => none
  | '"' :: _ => none
  | '\\' :: 'u' :: '\x7b' :: cs =>
    some (.ofNat (hexNumber (cs.takeWhile (· != '\x7d'))), (cs.dropWhile (· != '\x7d')).tail)
  | '\\' :: k :: cs => (escapes.lookup k).map fun c => (c, cs)
  | c :: cs => some (c, cs)

theorem readChar_codePointEscape (c : Char) (rest : List Char) :
    readChar (codePointEscape c ++ rest) = some (c, rest) := by
  have hbrace : ∀ d < 16, (d.digitChar != '\x7d') = true := by decide
  have hdigits : ∀ x ∈ Nat.toDigits 16 c.toNat, (x != '\x7d') = true := by
    intro x hx
    obtain ⟨d, hd, rfl⟩ := exists_digit_of_mem_toDigits hx
    exact hbrace d hd
  have htext : codePointEscape c ++ rest
      = '\\' :: 'u' :: '\x7b' :: (Nat.toDigits 16 c.toNat ++ '\x7d' :: rest) := by
    simp [codePointEscape]
  rw [htext, readChar, List.takeWhile_append_of_pos hdigits, List.dropWhile_append_of_pos hdigits]
  simp [hexNumber_toDigits, Char.ofNat_toNat]

/-- A character is read back from its quoted form. -/
theorem readChar_quoteChar (c : Char) (rest : List Char) :
    readChar (quoteChar c ++ rest) = some (c, rest) := by
  rcases quoteChar_cases c with ⟨k, hk, hform⟩ | hform | ⟨hform, hslash, hquote, -⟩
  · have hread : ∀ e ∈ escapes, readChar ('\\' :: e.1 :: rest) = some (e.2, rest) := by
      simp only [escapes, List.forall_mem_cons]
      exact ⟨rfl, rfl, rfl, rfl, rfl, rfl, fun _ h => by cases h⟩
    rw [hform]
    exact hread (k, c) hk
  · rw [hform]
    exact readChar_codePointEscape c rest
  · rw [hform, List.singleton_append]
    unfold readChar
    split
    · next h => cases h
    · next h =>
      cases h
      exact absurd rfl hquote
    · next h =>
      cases h
      exact absurd rfl hslash
    · next h =>
      cases h
      exact absurd rfl hslash
    · next h =>
      cases h
      rfl

/-- The quoted forms of two characters do not start alike, whatever follows them. -/
theorem quoteChar_append_inj {c d : Char} {xs ys : List Char}
    (h : quoteChar c ++ xs = quoteChar d ++ ys) : c = d ∧ xs = ys := by
  have hread := congrArg readChar h
  rw [readChar_quoteChar, readChar_quoteChar] at hread
  cases hread
  exact ⟨rfl, rfl⟩

theorem quoteChar_append_ne (c : Char) (xs ys : List Char) : quoteChar c ++ xs ≠ '"' :: ys := by
  intro h
  have hread := congrArg readChar h
  rw [readChar_quoteChar] at hread
  cases hread

/-- Up to the first quote that is not escaped, quoted characters tell what they stand for. -/
theorem flatMap_quoteChar_append_inj :
    ∀ {s t xs ys : List Char},
      s.flatMap quoteChar ++ '"' :: xs = t.flatMap quoteChar ++ '"' :: ys → s = t ∧ xs = ys
  | [], [], _, _, h => ⟨rfl, List.tail_eq_of_cons_eq h⟩
  | [], d :: t, _, _, h => by
    rw [List.flatMap_cons, List.append_assoc] at h
    exact absurd h.symm (quoteChar_append_ne d _ _)
  | c :: s, [], _, _, h => by
    rw [List.flatMap_cons, List.append_assoc] at h
    exact absurd h (quoteChar_append_ne c _ _)
  | c :: s, d :: t, _, _, h => by
    rw [List.flatMap_cons, List.flatMap_cons, List.append_assoc, List.append_assoc] at h
    obtain ⟨rfl, hrest⟩ := quoteChar_append_inj h
    obtain ⟨rfl, rfl⟩ := flatMap_quoteChar_append_inj hrest
    exact ⟨rfl, rfl⟩

theorem toList_quote_append (s : String) (xs : List Char) :
    (quote s).toList ++ xs = '"' :: (s.toList.flatMap quoteChar ++ '"' :: xs) := by
  simp [quote]

/-- **A quoted text tells the text**, whatever follows it. -/
theorem quote_append_inj {s t : String} {xs ys : List Char}
    (h : (quote s).toList ++ xs = (quote t).toList ++ ys) : s = t ∧ xs = ys := by
  rw [toList_quote_append, toList_quote_append] at h
  obtain ⟨hlist, hrest⟩ := flatMap_quoteChar_append_inj (List.tail_eq_of_cons_eq h)
  exact ⟨String.toList_inj.mp hlist, hrest⟩

/-- A text that imitates the end of a quoted text is escaped. -/
example : quote "a\"\n" = "\"a\\\"\\n\"" := by decide

/-! ## What shows -/

/-- ASCII shows but for its controls. -/
theorem isUnprintable_of_ascii {c : Char} (h : 0x20 ≤ c.toNat) (h' : c.toNat < 0x7f) :
    isUnprintable c = false := by
  unfold isUnprintable
  rw [if_pos (by omega)]
  simp
  omega

theorem isUnprintable_of_mem_codePointEscape {c d : Char} (h : d ∈ codePointEscape c) :
    isUnprintable d = false := by
  have hdigit : ∀ i < 16, isUnprintable i.digitChar = false := by decide
  simp only [codePointEscape, List.cons_append, List.mem_cons, List.mem_append, List.not_mem_nil,
    or_false] at h
  rcases h with rfl | rfl | rfl | h | rfl
  · decide
  · decide
  · decide
  · obtain ⟨i, hi, rfl⟩ := exists_digit_of_mem_toDigits h
    exact hdigit i hi
  · decide

theorem isUnprintable_of_mem_quoteChar {c d : Char} (h : d ∈ quoteChar c) :
    isUnprintable d = false := by
  rcases quoteChar_cases c with ⟨k, hk, hform⟩ | hform | ⟨hform, -, -, hshown⟩
  · have hshown : escapes.all (fun e => !isUnprintable e.1) = true := by decide
    rw [hform, List.mem_cons, List.mem_singleton] at h
    rcases h with rfl | rfl
    · decide
    · simpa using List.all_eq_true.mp hshown (d, c) hk
  · rw [hform] at h
    exact isUnprintable_of_mem_codePointEscape h
  · rw [hform, List.mem_singleton] at h
    rw [h]
    exact hshown

/-- A text in which every character shows. Such a text is on one line. -/
def Printable (s : String) : Prop := ∀ c ∈ s.toList, isUnprintable c = false

instance : DecidablePred Printable := fun s =>
  decidable_of_iff (s.toList.all fun c => !isUnprintable c) (by simp [Printable])

/-- Where every character shows there is no control. -/
theorem Printable.not_control {s : String} (h : Printable s) {c : Char} (hc : c ∈ s.toList) :
    isControlChar c = false := by
  refine Bool.eq_false_iff.mpr fun hcontrol => ?_
  have hrange : c.toNat < 0x20 ∨ 0x7f ≤ c.toNat ∧ c.toNat ≤ 0x9f := by
    simpa [isControlChar] using hcontrol
  exact Bool.false_ne_true ((h c hc).symm.trans (isUnprintable_of_control hrange))

/-- Whatever a text holds, all of its quoted form shows. -/
theorem printable_quote (s : String) : Printable (quote s) := by
  intro c h
  rw [← List.append_nil (quote s).toList, toList_quote_append] at h
  simp only [List.mem_cons, List.mem_append, List.mem_flatMap, List.not_mem_nil, or_false] at h
  rcases h with rfl | ⟨d, -, hd⟩ | rfl
  · decide
  · exact isUnprintable_of_mem_quoteChar hd
  · decide

end SiteManifest.Text
