import Mathlib.Data.List.Forall2
import SiteManifest.Json.Printer
import SiteManifest.Proofs.Json.Reading

/-!
# Printed values

A printed text spells the value that was printed, in either layout. This is shown for values without
numbers, whatever their strings hold.

## Strings

Each character is printed in a form that is read as this character, so a printed string is read as the
string, up to its closing quote.

## Lists and objects

The two layouts differ only in the blanks around entries. One statement about texts that are joined with
a comma and blanks covers both.
-/

namespace SiteManifest.Json

open Read

/-! ## Characters in strings -/

theorem stringBody_quote (rest : List Char) : stringBody ('"' :: rest) = .ok ([], rest) := by
  rw [stringBody, if_pos rfl]

theorem stringBody_escape {cs after s rest : List Char} {c : Char} (he : escape cs = .ok (c, after))
    (hs : stringBody after = .ok (s, rest)) : stringBody ('\\' :: cs) = .ok (c :: s, rest) := by
  rw [stringBody, if_neg (by decide), if_pos rfl]
  split
  · next f hf =>
    rw [he] at hf
    cases hf
  · next e after' he' =>
    rw [he] at he'
    cases he'
    simp only [hs]

theorem stringBody_plain {cs s rest : List Char} {c : Char} (hquote : c ≠ '"') (hslash : c ≠ '\\')
    (hcontrol : ¬c.toNat < 0x20) (hs : stringBody cs = .ok (s, rest)) :
    stringBody (c :: cs) = .ok (c :: s, rest) := by
  rw [stringBody, if_neg hquote, if_neg hslash, if_neg hcontrol]
  simp only [hs]

theorem escape_simple {c e : Char} (hu : c ≠ 'u') (h : simpleEscape? c = some e)
    (rest : List Char) : escape (c :: rest) = .ok (e, rest) := by
  rw [escape, if_neg hu]
  simp only [h]

/-- The two hexadecimal digits of a control character have one byte each and give its code point. -/
theorem hexQuad?_hexDigit : ∀ n < 0x20, (hexDigit (n / 16)).utf8Size = 1
    ∧ (hexDigit (n % 16)).utf8Size = 1
    ∧ hexQuad? '0' '0' (hexDigit (n / 16)) (hexDigit (n % 16)) = some n := by
  decide

theorem escape_control {c : Char} (h : c.toNat < 0x20) (rest : List Char) :
    escape ('u' :: '0' :: '0' :: hexDigit (c.toNat / 16) :: hexDigit (c.toNat % 16) :: rest)
      = .ok (c, rest) := by
  obtain ⟨hhigh, hlow, hquad⟩ := hexQuad?_hexDigit c.toNat h
  have hread : hexQuad ('0' :: '0' :: hexDigit (c.toNat / 16) :: hexDigit (c.toNat % 16) :: rest)
      = .ok (c.toNat, rest) := by
    -- the reader counts bytes before it looks at digits
    have hbytes : byteCount (('0' :: '0' :: hexDigit (c.toNat / 16) :: hexDigit (c.toNat % 16)
        :: rest).take 4) = 4 := by
      show 0 + 1 + 1 + (hexDigit (c.toNat / 16)).utf8Size + (hexDigit (c.toNat % 16)).utf8Size = 4
      rw [hhigh, hlow]
    rw [hexQuad, if_neg (by rw [hbytes]; exact Nat.lt_irrefl 4)]
    simp only [hquad]
  have hnotLow : isLowSurrogate c.toNat = false := by
    simp only [isLowSurrogate, Bool.and_eq_false_iff, decide_eq_false_iff_not]
    omega
  have hnotHigh : isHighSurrogate c.toNat = false := by
    simp only [isHighSurrogate, Bool.and_eq_false_iff, decide_eq_false_iff_not]
    omega
  rw [escape, if_pos rfl, unicodeEscape]
  refine (Except.bind_of_ok hread _).trans ?_
  simp only [hnotLow, hnotHigh, Char.ofNat_toNat]
  rfl

/-- A printed character is read as the character. -/
theorem stringBody_escapeChar (c : Char) {cs s rest : List Char}
    (hs : stringBody cs = .ok (s, rest)) :
    stringBody (escapeChar c ++ cs) = .ok (c :: s, rest) := by
  -- the characters that have an escape of their own, in the order in which the printer asks for them
  by_cases hquote : c = '"'
  · subst hquote
    exact stringBody_escape (escape_simple (by decide) rfl cs) hs
  by_cases hslash : c = '\\'
  · subst hslash
    exact stringBody_escape (escape_simple (by decide) rfl cs) hs
  by_cases hfeed : c = '\n'
  · subst hfeed
    exact stringBody_escape (escape_simple (by decide) rfl cs) hs
  by_cases hreturn : c = '\r'
  · subst hreturn
    exact stringBody_escape (escape_simple (by decide) rfl cs) hs
  by_cases htab : c = '\t'
  · subst htab
    exact stringBody_escape (escape_simple (by decide) rfl cs) hs
  by_cases hback : c = '\x08'
  · subst hback
    exact stringBody_escape (escape_simple (by decide) rfl cs) hs
  by_cases hpage : c = '\x0c'
  · subst hpage
    exact stringBody_escape (escape_simple (by decide) rfl cs) hs
  rw [escapeChar, if_neg hquote, if_neg hslash, if_neg hfeed, if_neg hreturn, if_neg htab,
    if_neg hback, if_neg hpage]
  split
  · next hcontrol => exact stringBody_escape (escape_control hcontrol cs) hs
  · next hcontrol => exact stringBody_plain hquote hslash hcontrol hs

/-- **A printed string is read as the string.** -/
theorem stringBody_flatMap_escapeChar (rest : List Char) :
    ∀ s : List Char, stringBody (s.flatMap escapeChar ++ '"' :: rest) = .ok (s, rest)
  | [] => stringBody_quote rest
  | c :: s => by
    rw [List.flatMap_cons, List.append_assoc]
    exact stringBody_escapeChar c (stringBody_flatMap_escapeChar rest s)

/-! ## Texts of values -/

/-- A text is a spelling of a value, whatever follows it. -/
def IsSpelling (text : List Char) (v : Json) : Prop := ∀ rest, Spells (text ++ rest) v rest

theorem isSpelling_stringText (s : String) : IsSpelling (stringText s) (.string s) := by
  intro rest
  have hbody := stringBody_flatMap_escapeChar rest s.toList
  have htext : stringText s ++ rest = '"' :: (s.toList.flatMap escapeChar ++ '"' :: rest) := by
    rw [stringText, List.append_assoc]
    rfl
  have h : Spells (stringText s ++ rest) (.string (.ofList s.toList)) rest :=
    .string (by rw [htext]; rfl) hbody
  rw [String.ofList_toList] at h
  exact h

/-- A text is a spelling of a member: its key, a colon and its value, whatever follows. -/
def IsMember (text : List Char) (m : String × Json) : Prop :=
  ∀ rest, ∃ body afterKey afterColon, skipBlanks (text ++ rest) = '"' :: body
    ∧ key ('"' :: body) = .ok (m.1, afterKey) ∧ colon afterKey = .ok afterColon
    ∧ Spells afterColon m.2 rest

theorem skipBlanks_append {gap : List Char} (hgap : skipBlanks gap = []) (cs : List Char) :
    skipBlanks (gap ++ cs) = skipBlanks cs :=
  List.dropWhile_append_of_pos (List.dropWhile_eq_nil_iff.mp hgap)

theorem isMember_of_isSpelling {gap text : List Char} {v : Json} (hgap : skipBlanks gap = [])
    (h : IsSpelling text v) (k : String) : IsMember (stringText k ++ ':' :: gap ++ text) (k, v) := by
  intro rest
  have hbody := stringBody_flatMap_escapeChar (':' :: (gap ++ (text ++ rest))) k.toList
  have hkey : key ('"' :: (k.toList.flatMap escapeChar ++ '"' :: ':' :: (gap ++ (text ++ rest))))
      = .ok (k, ':' :: (gap ++ (text ++ rest))) := by
    refine (Except.bind_of_ok hbody _).trans ?_
    show Except.ok (String.ofList k.toList, _) = _
    rw [String.ofList_toList]
  refine ⟨_, _, _, ?_, hkey, rfl, (h rest).congr (skipBlanks_append hgap _)⟩
  simp only [stringText, List.append_assoc, List.cons_append, List.nil_append]
  rfl

/-! ## Joined texts -/

theorem joinWith_cons (separator x : List Char) : ∀ xs : List (List Char),
    joinWith separator (x :: xs) = x ++ xs.flatMap (separator ++ ·)
  | [] => (List.append_nil x).symm
  | y :: ys => by
    rw [joinWith, joinWith_cons separator y ys, List.flatMap_cons, List.append_assoc,
      List.append_assoc]
    · intro h
      cases h

theorem nextItem_first {cs tail : List Char} {c : Char} (h : skipBlanks cs = c :: tail)
    (hc : c ≠ ']') : nextItem true cs = .ok (.entry (c :: tail)) := by
  rw [nextItem, h]
  simp only [if_neg hc, if_true]

theorem nextItem_comma {cs tail : List Char} {c : Char} (h : skipBlanks cs = c :: tail)
    (hc : c ≠ ']') : nextItem false (',' :: cs) = .ok (.entry (c :: tail)) := by
  have hcomma : skipBlanks (',' :: cs) = ',' :: cs := rfl
  unfold nextItem
  rw [hcomma]
  simp only [h, if_neg hc]
  rfl

theorem nextKey_first {cs body : List Char} (h : skipBlanks cs = '"' :: body) :
    nextKey true cs = .ok (.entry ('"' :: body)) := by
  rw [nextKey, h]
  rfl

theorem nextKey_comma {cs body : List Char} (h : skipBlanks cs = '"' :: body) :
    nextKey false (',' :: cs) = .ok (.entry ('"' :: body)) := by
  have hcomma : skipBlanks (',' :: cs) = ',' :: cs := rfl
  unfold nextKey
  rw [hcomma]
  simp only [h]
  rfl

section

variable {gap last : List Char} (hgap : skipBlanks gap = []) (hlast : skipBlanks last = [])

include hgap hlast

/-- The items after the first one: a comma and blanks stand before each of them. -/
theorem spellsItems_flatMap (rest : List Char) : ∀ {texts : List (List Char)} {vs : List Json},
    List.Forall₂ IsSpelling texts vs →
      SpellsItems false (texts.flatMap (',' :: gap ++ ·) ++ (last ++ ']' :: rest)) vs (']' :: rest)
  | [], [], .nil => .close (nextItem_close (skipBlanks_append hlast _) false)
  | text :: texts, _ :: _, .cons hv hvs => by
    have hothers := spellsItems_flatMap rest hvs
    have hfirst := hv (texts.flatMap (',' :: gap ++ ·) ++ (last ++ ']' :: rest))
    -- a bracket after a comma would be refused, but no value starts with one
    obtain ⟨c, tail, hstart, hkind⟩ := hfirst.exists_start
    have hc : c ≠ ']' := ne_of_kindOfStart? hkind nofun
    have hnext := nextItem_comma ((skipBlanks_append hgap _).trans hstart) hc
    have hitems := SpellsItems.entry hnext (hstart ▸ hfirst.past_blanks) hothers
    simpa only [List.flatMap_cons, List.append_assoc, List.cons_append] using hitems

/-- The items of a list in brackets. -/
theorem spellsItems_joinWith (rest : List Char) : ∀ {texts : List (List Char)} {vs : List Json},
    List.Forall₂ IsSpelling texts vs →
      SpellsItems true (gap ++ (joinWith (',' :: gap) texts ++ (last ++ ']' :: rest))) vs
        (']' :: rest)
  | [], [], .nil => by
    have hclose : skipBlanks (gap ++ (last ++ ']' :: rest)) = ']' :: rest :=
      (skipBlanks_append hgap _).trans (skipBlanks_append hlast _)
    exact .close (nextItem_close hclose true)
  | text :: texts, _ :: _, .cons hv hvs => by
    have hothers := spellsItems_flatMap hgap hlast rest hvs
    have hfirst := hv (texts.flatMap (',' :: gap ++ ·) ++ (last ++ ']' :: rest))
    obtain ⟨c, tail, hstart, hkind⟩ := hfirst.exists_start
    have hc : c ≠ ']' := ne_of_kindOfStart? hkind nofun
    have hnext := nextItem_first ((skipBlanks_append hgap _).trans hstart) hc
    rw [joinWith_cons, List.append_assoc]
    exact .entry hnext (hstart ▸ hfirst.past_blanks) hothers

/-- The members after the first one. -/
theorem spellsMembers_flatMap (rest : List Char) : ∀ {texts : List (List Char)}
    {ms : List (String × Json)}, List.Forall₂ IsMember texts ms →
      SpellsMembers false (texts.flatMap (',' :: gap ++ ·) ++ (last ++ '\x7d' :: rest)) ms
        ('\x7d' :: rest)
  | [], [], .nil => .close (nextKey_close (skipBlanks_append hlast _) false)
  | text :: texts, (_, _) :: _, .cons hm hms => by
    have hothers := spellsMembers_flatMap rest hms
    obtain ⟨_, _, _, hstart, hkey, hcolon, hv⟩ :=
      hm (texts.flatMap (',' :: gap ++ ·) ++ (last ++ '\x7d' :: rest))
    have hnext := nextKey_comma ((skipBlanks_append hgap _).trans hstart)
    have hmembers := SpellsMembers.entry hnext hkey hcolon hv hothers
    simpa only [List.flatMap_cons, List.append_assoc, List.cons_append] using hmembers

/-- The members of an object in braces. -/
theorem spellsMembers_joinWith (rest : List Char) : ∀ {texts : List (List Char)}
    {ms : List (String × Json)}, List.Forall₂ IsMember texts ms →
      SpellsMembers true (gap ++ (joinWith (',' :: gap) texts ++ (last ++ '\x7d' :: rest))) ms
        ('\x7d' :: rest)
  | [], [], .nil => by
    have hclose : skipBlanks (gap ++ (last ++ '\x7d' :: rest)) = '\x7d' :: rest :=
      (skipBlanks_append hgap _).trans (skipBlanks_append hlast _)
    exact .close (nextKey_close hclose true)
  | text :: texts, (_, _) :: _, .cons hm hms => by
    have hothers := spellsMembers_flatMap hgap hlast rest hms
    obtain ⟨_, _, _, hstart, hkey, hcolon, hv⟩ :=
      hm (texts.flatMap (',' :: gap ++ ·) ++ (last ++ '\x7d' :: rest))
    have hnext := nextKey_first ((skipBlanks_append hgap _).trans hstart)
    rw [joinWith_cons, List.append_assoc]
    exact .entry hnext hkey hcolon hv hothers

theorem isSpelling_array {texts : List (List Char)} {vs : List Json}
    (h : List.Forall₂ IsSpelling texts vs) :
    IsSpelling ('[' :: gap ++ joinWith (',' :: gap) texts ++ last ++ [']']) (.array vs) := by
  intro rest
  have hitems := spellsItems_joinWith hgap hlast rest h
  simp only [List.append_assoc, List.cons_append, List.nil_append]
  exact .array rfl hitems rfl

theorem isSpelling_object {texts : List (List Char)} {ms : List (String × Json)}
    (h : List.Forall₂ IsMember texts ms) :
    IsSpelling ('\x7b' :: gap ++ joinWith (',' :: gap) texts ++ last ++ ['\x7d']) (.object ms) := by
  intro rest
  have hmembers := spellsMembers_joinWith hgap hlast rest h
  simp only [List.append_assoc, List.cons_append, List.nil_append]
  exact .object rfl hmembers rfl

end

/-! ## Layouts -/

theorem compactItems_eq_map : ∀ vs : List Json, compactItems vs = vs.map compactText
  | [] => rfl
  | v :: vs => congrArg (compactText v :: ·) (compactItems_eq_map vs)

theorem compactMembers_eq_map : ∀ ms : List (String × Json),
    compactMembers ms = ms.map fun m => stringText m.1 ++ ':' :: compactText m.2
  | [] => rfl
  | (k, v) :: ms => congrArg ((stringText k ++ ':' :: compactText v) :: ·) (compactMembers_eq_map ms)

theorem spreadItems_eq_map (level : Nat) :
    ∀ vs : List Json, spreadItems level vs = vs.map (spreadText level)
  | [] => rfl
  | v :: vs => congrArg (spreadText level v :: ·) (spreadItems_eq_map level vs)

theorem spreadMembers_eq_map (level : Nat) : ∀ ms : List (String × Json),
    spreadMembers level ms = ms.map fun m => stringText m.1 ++ ':' :: ' ' :: spreadText level m.2
  | [] => rfl
  | (k, v) :: ms =>
    congrArg ((stringText k ++ ':' :: ' ' :: spreadText level v) :: ·) (spreadMembers_eq_map level ms)

theorem skipBlanks_indent (level : Nat) : skipBlanks (indent level) = [] := by
  refine List.dropWhile_eq_nil_iff.mpr ?_
  intro c hc
  cases List.mem_cons.mp hc with
  | inl h => subst h; rfl
  | inr h =>
    rw [List.eq_of_mem_replicate h]
    rfl

theorem skipBlanks_nil : skipBlanks [] = [] := rfl

/-- **A compact text spells its value.** -/
theorem Tidy.isSpelling_compactText : ∀ {d : Nat} {v : Json}, Tidy d v →
    IsSpelling (compactText v) v
  | _, _, .null => fun _ => .null rfl rfl
  | _, _, .bool true => fun _ => .yes rfl rfl
  | _, _, .bool false => fun _ => .no rfl rfl
  | _, _, .string s => isSpelling_stringText s
  | _, .array vs, .array h => by
    have hitems : List.Forall₂ IsSpelling (compactItems vs) vs := by
      rw [compactItems_eq_map, List.forall₂_map_left_iff, List.forall₂_same]
      intro v hv
      exact (h v hv).isSpelling_compactText
    have hlist := isSpelling_array skipBlanks_nil skipBlanks_nil hitems
    rw [List.append_nil] at hlist
    exact hlist
  | _, .object ms, .object _ h => by
    have hmembers : List.Forall₂ IsMember (compactMembers ms) ms := by
      rw [compactMembers_eq_map, List.forall₂_map_left_iff, List.forall₂_same]
      intro m hm
      have hmember := isMember_of_isSpelling skipBlanks_nil (h m hm).isSpelling_compactText m.1
      rw [List.append_assoc] at hmember
      exact hmember
    have hobject := isSpelling_object skipBlanks_nil skipBlanks_nil hmembers
    rw [List.append_nil] at hobject
    exact hobject

/-- **A spread text spells its value**, at any level. -/
theorem Tidy.isSpelling_spreadText : ∀ {d : Nat} {v : Json}, Tidy d v → ∀ level,
    IsSpelling (spreadText level v) v
  | _, _, .null, _ => fun _ => .null rfl rfl
  | _, _, .bool true, _ => fun _ => .yes rfl rfl
  | _, _, .bool false, _ => fun _ => .no rfl rfl
  | _, _, .string s, _ => isSpelling_stringText s
  -- empty lists and objects have no line of their own for the closing bracket
  | _, .array [], .array _, _ => isSpelling_array skipBlanks_nil skipBlanks_nil .nil
  | _, .array (v :: vs), .array h, level => by
    have hitems : List.Forall₂ IsSpelling (spreadItems (level + 1) (v :: vs)) (v :: vs) := by
      rw [spreadItems_eq_map, List.forall₂_map_left_iff, List.forall₂_same]
      intro w hw
      exact (h w hw).isSpelling_spreadText (level + 1)
    exact isSpelling_array (skipBlanks_indent (level + 1)) (skipBlanks_indent level) hitems
  | _, .object [], .object _ _, _ => isSpelling_object skipBlanks_nil skipBlanks_nil .nil
  | _, .object (m :: ms), .object _ h, level => by
    have hmembers : List.Forall₂ IsMember (spreadMembers (level + 1) (m :: ms)) (m :: ms) := by
      rw [spreadMembers_eq_map, List.forall₂_map_left_iff, List.forall₂_same]
      intro n hn
      have hmember := isMember_of_isSpelling (rfl : skipBlanks [' '] = [])
        ((h n hn).isSpelling_spreadText (level + 1)) n.1
      rw [List.append_assoc] at hmember
      exact hmember
    exact isSpelling_object (skipBlanks_indent (level + 1)) (skipBlanks_indent level) hmembers

/-- A printed text spells the value that was printed, whatever follows it. -/
theorem Tidy.spells_print {d : Nat} {v : Json} (h : Tidy d v) (layout : Layout)
    (ending : String) : Spells (v.print layout ++ ending).toList v ending.toList := by
  rw [String.toList_append]
  cases layout with
  | compact =>
    rw [print, String.toList_ofList]
    exact h.isSpelling_compactText ending.toList
  | spread =>
    rw [print, String.toList_ofList]
    exact h.isSpelling_spreadText 0 ending.toList

/-- A printed text holds the value that was printed. -/
theorem Tidy.ofText_print {d : Nat} {v : Json} (h : Tidy d v) (hd : d ≤ maxDepth) (layout : Layout) :
    ofText (v.print layout) = .ok v := by
  have hspells := h.spells_print layout ""
  rw [String.append_empty] at hspells
  exact ofText_of_spells hspells rfl (Nat.le_trans h.depth_le hd)

end SiteManifest.Json
