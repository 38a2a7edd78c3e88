import SiteManifest.Proofs.Json.Spelling
import SiteManifest.Proofs.Json.Tidy

/-!
# Reading spelled values

The reader of whole values reads what is spelled: every value that is not nested deeper than it may
be. The steps that it is given bound the entries of one list or object, and the length of the text is
enough for all of them. It reads nothing else: what it takes from a text is spelled there.
-/

namespace SiteManifest.Json

open Read

/-! ## One value -/

/-- Which readers are given for lists and objects does not matter to other values. -/
theorem Spells.valueWith_of_depth {cs rest : List Char} {v : Json} {list object : Reader Json}
    (h : Spells cs v rest) (hd : v.depth = 0) : valueWith list object cs = .ok (v, rest) := by
  unfold valueWith
  cases h with
  | null h hw =>
    rw [h]
    exact Except.bind_of_ok hw _
  | yes h hw =>
    rw [h]
    exact Except.bind_of_ok hw _
  | no h hw =>
    rw [h]
    exact Except.bind_of_ok hw _
  | negative h hn =>
    rw [h]
    exact Except.bind_of_ok hn _
  | number h hc hn =>
    obtain ⟨hnull, htrue, hfalse, hminus⟩ := starts_ne_of_isDigit hc
    rw [h]
    simp only [if_neg hnull, if_neg htrue, if_neg hfalse, if_neg hminus, if_pos hc]
    exact Except.bind_of_ok hn _
  | string h hs =>
    rw [h]
    exact Except.bind_of_ok hs _
  | array h hvs hclose => cases hd
  | object h hms hclose => cases hd

theorem valueWith_of_list {cs body : List Char} {list object : Reader Json}
    (h : skipBlanks cs = '[' :: body) : valueWith list object cs = list ('[' :: body) := by
  unfold valueWith
  rw [h]
  rfl

theorem valueWith_of_object {cs body : List Char} {list object : Reader Json}
    (h : skipBlanks cs = '\x7b' :: body) :
    valueWith list object cs = object ('\x7b' :: body) := by
  unfold valueWith
  rw [h]
  rfl

theorem Spells.value_of_depth {cs rest : List Char} {v : Json} (h : Spells cs v rest)
    (hd : v.depth = 0) (steps : Nat) : ∀ depth, Read.value steps depth cs = .ok (v, rest)
  | 0 => h.valueWith_of_depth hd
  | _ + 1 => h.valueWith_of_depth hd

theorem value_of_list {cs body : List Char} (h : skipBlanks cs = '[' :: body) (steps depth : Nat) :
    Read.value steps (depth + 1) cs = Read.list (Read.value steps depth) steps body := by
  rw [Read.value, valueWith_of_list h]
  rfl

theorem value_of_object {cs body : List Char} (h : skipBlanks cs = '\x7b' :: body)
    (steps depth : Nat) :
    Read.value steps (depth + 1) cs = Read.object (Read.value steps depth) steps body := by
  rw [Read.value, valueWith_of_object h]
  rfl

/-! ## All values -/

theorem items_of_close {α : Type} {item : Reader α} {first : Bool} {cs bracket : List Char}
    (h : nextItem first cs = .ok (.close bracket)) (more : Nat) :
    items item (more + 1) first cs = .ok ([], bracket) :=
  Except.bind_of_ok h _

theorem items_of_entry {α : Type} {item : Reader α} {first : Bool} {cs start : List Char}
    (h : nextItem first cs = .ok (.entry start)) (more : Nat) :
    items item (more + 1) first cs = do
      let (x, rest) ← item start
      let (xs, rest) ← items item more false rest
      return (x :: xs, rest) :=
  Except.bind_of_ok h _

theorem members_of_close {α : Type} {item : Reader α} {first : Bool} {cs bracket : List Char}
    (h : nextKey first cs = .ok (.close bracket)) (more : Nat) :
    members item (more + 1) first cs = .ok ([], bracket) :=
  Except.bind_of_ok h _

theorem members_of_entry {α : Type} {item : Reader α} {first : Bool}
    {cs start afterKey afterColon : List Char} {k : String}
    (h : nextKey first cs = .ok (.entry start)) (hk : key start = .ok (k, afterKey))
    (hcolon : colon afterKey = .ok afterColon) (more : Nat) :
    members item (more + 1) first cs = do
      let (x, rest) ← item afterColon
      let (xs, rest) ← members item more false rest
      return ((k, x) :: xs, rest) := by
  refine (Except.bind_of_ok h _).trans ?_
  refine (Except.bind_of_ok hk _).trans ?_
  exact Except.bind_of_ok hcolon _

mutual

/-- **What is spelled is read**, if it is not nested too deep. -/
theorem Spells.value_eq_ok {steps : Nat} : ∀ {cs rest : List Char} {v : Json} {d : Nat},
    Spells cs v rest → v.depth ≤ d → cs.length < steps → Read.value steps d cs = .ok (v, rest)
  | _, _, _, d, .null h hw, _, _ => (Spells.null h hw).value_of_depth rfl steps d
  | _, _, _, d, .yes h hw, _, _ => (Spells.yes h hw).value_of_depth rfl steps d
  | _, _, _, d, .no h hw, _, _ => (Spells.no h hw).value_of_depth rfl steps d
  | _, _, _, d, .negative h hn, _, _ => (Spells.negative h hn).value_of_depth rfl steps d
  | _, _, _, d, .number h hc hn, _, _ => (Spells.number h hc hn).value_of_depth rfl steps d
  | _, _, _, d, .string h hs, _, _ => (Spells.string h hs).value_of_depth rfl steps d
  | _, _, _, d + 1, .array h hvs hclose, hd, hs => by
    have hbody := length_lt_of_skipBlanks h
    -- each item takes a character of the body, so there are fewer items than steps
    have hitems := hvs.items_eq_ok (Nat.le_of_succ_le_succ hd) (Nat.lt_trans hbody hs)
      (Nat.lt_of_le_of_lt (Nat.le_of_add_right_le hvs.length_le) (Nat.lt_trans hbody hs))
    rw [value_of_list h]
    refine (Except.bind_of_ok hitems _).trans ?_
    exact Except.bind_of_ok hclose _
  | _, _, _, d + 1, .object h hms hclose, hd, hs => by
    have hbody := length_lt_of_skipBlanks h
    have hmembers := hms.members_eq_ok (Nat.le_of_succ_le_succ hd) (Nat.lt_trans hbody hs)
      (Nat.lt_of_le_of_lt (Nat.le_of_add_right_le hms.length_le) (Nat.lt_trans hbody hs))
    rw [value_of_object h]
    refine (Except.bind_of_ok hmembers _).trans ?_
    exact Except.bind_of_ok hclose _

/-- The steps are counted off by the items. -/
theorem SpellsItems.items_eq_ok {steps : Nat} : ∀ {first : Bool} {cs bracket : List Char}
    {vs : List Json} {d more : Nat}, SpellsItems first cs vs bracket → depthOfItems vs ≤ d →
      cs.length < steps → vs.length < more →
        items (Read.value steps d) more first cs = .ok (vs, bracket)
  | _, _, _, _, _, more + 1, .close h, _, _, _ => items_of_close h more
  | _, _, _, _, d, more + 1, .entry h hv hvs, hd, hs, hmore => by
    have hstart := nextItem_entry_length h
    have hrest := hv.length_lt
    have hfirst : Read.value steps d _ = .ok _ :=
      hv.value_eq_ok (Nat.le_trans (Nat.le_max_left _ _) hd) (Nat.lt_of_le_of_lt hstart hs)
    have hothers := hvs.items_eq_ok (Nat.le_trans (Nat.le_max_right _ _) hd)
      (Nat.lt_trans hrest (Nat.lt_of_le_of_lt hstart hs)) (Nat.lt_of_succ_lt_succ hmore)
    rw [items_of_entry h]
    refine (Except.bind_of_ok hfirst _).trans ?_
    exact Except.bind_of_ok hothers _

/-- The steps are counted off by the members. -/
theorem SpellsMembers.members_eq_ok {steps : Nat} : ∀ {first : Bool} {cs bracket : List Char}
    {ms : List (String × Json)} {d more : Nat}, SpellsMembers first cs ms bracket →
      depthOfMembers ms ≤ d → cs.length < steps → ms.length < more →
        members (Read.value steps d) more first cs = .ok (ms, bracket)
  | _, _, _, _, _, more + 1, .close h, _, _, _ => members_of_close h more
  | _, _, _, _, d, more + 1, .entry h hk hcolon hv hms, hd, hs, hmore => by
    have hstart := nextKey_entry_length h
    have hvalue := Nat.lt_trans (colon_length hcolon) (key_length hk)
    have hrest := hv.length_lt
    have hfirst : Read.value steps d _ = .ok _ :=
      hv.value_eq_ok (Nat.le_trans (Nat.le_max_left _ _) hd)
        (Nat.lt_trans hvalue (Nat.lt_of_le_of_lt hstart hs))
    have hothers := hms.members_eq_ok (Nat.le_trans (Nat.le_max_right _ _) hd)
      (Nat.lt_trans hrest (Nat.lt_trans hvalue (Nat.lt_of_le_of_lt hstart hs)))
      (Nat.lt_of_succ_lt_succ hmore)
    rw [members_of_entry h hk hcolon]
    refine (Except.bind_of_ok hfirst _).trans ?_
    exact Except.bind_of_ok hothers _

end

/-! ## Nothing else -/

/-- A reader of values takes from a text what is spelled there. -/
def Read.Sound (reader : Reader Json) : Prop :=
  ∀ ⦃cs rest : List Char⦄ ⦃v : Json⦄, reader cs = .ok (v, rest) → Spells cs v rest

theorem Read.Sound.items {item : Reader Json} (hitem : Sound item) {steps : Nat} {first : Bool}
    {cs bracket : List Char} {vs : List Json} (h : items item steps first cs = .ok (vs, bracket)) :
    SpellsItems first cs vs bracket := by
  induction steps generalizing first cs vs with
  | zero => cases h
  | succ steps ih =>
    rw [Read.items] at h
    obtain ⟨next, hnext, h⟩ := Except.bind_eq_ok.mp h
    cases next with
    | close end_ =>
      cases h
      exact .close hnext
    | entry start =>
      obtain ⟨⟨v, rest⟩, hv, h⟩ := Except.bind_eq_ok.mp h
      obtain ⟨⟨others, end_⟩, hothers, h⟩ := Except.bind_eq_ok.mp h
      cases h
      exact .entry hnext (hitem hv) (ih hothers)

theorem Read.Sound.members {item : Reader Json} (hitem : Sound item) {steps : Nat} {first : Bool}
    {cs bracket : List Char} {ms : List (String × Json)}
    (h : members item steps first cs = .ok (ms, bracket)) : SpellsMembers first cs ms bracket := by
  induction steps generalizing first cs ms with
  | zero => cases h
  | succ steps ih =>
    rw [Read.members] at h
    obtain ⟨next, hnext, h⟩ := Except.bind_eq_ok.mp h
    cases next with
    | close end_ =>
      cases h
      exact .close hnext
    | entry start =>
      obtain ⟨⟨k, afterKey⟩, hk, h⟩ := Except.bind_eq_ok.mp h
      obtain ⟨afterColon, hcolon, h⟩ := Except.bind_eq_ok.mp h
      obtain ⟨⟨v, rest⟩, hv, h⟩ := Except.bind_eq_ok.mp h
      obtain ⟨⟨others, end_⟩, hothers, h⟩ := Except.bind_eq_ok.mp h
      cases h
      exact .entry hnext hk hcolon (hitem hv) (ih hothers)

/-- What is read of a list or of an object is left to their readers. -/
theorem spells_of_valueWith {list object : Reader Json} {cs rest : List Char} {v : Json}
    (hlist : ∀ body, skipBlanks cs = '[' :: body → list ('[' :: body) = .ok (v, rest) →
      Spells cs v rest)
    (hobject : ∀ body, skipBlanks cs = '\x7b' :: body → object ('\x7b' :: body) = .ok (v, rest) →
      Spells cs v rest)
    (h : valueWith list object cs = .ok (v, rest)) : Spells cs v rest := by
  unfold valueWith at h
  cases hcs : skipBlanks cs with
  | nil =>
    rw [hcs] at h
    cases h
  | cons c body =>
    rw [hcs] at h
    dsimp only at h
    split_ifs at h with hnull htrue hfalse hminus hdigit hquote hbracket hbrace
    · obtain ⟨end_, hw, h⟩ := Except.bind_eq_ok.mp h
      cases h
      exact .null (hnull ▸ hcs) hw
    · obtain ⟨end_, hw, h⟩ := Except.bind_eq_ok.mp h
      cases h
      exact .yes (htrue ▸ hcs) hw
    · obtain ⟨end_, hw, h⟩ := Except.bind_eq_ok.mp h
      cases h
      exact .no (hfalse ▸ hcs) hw
    · obtain ⟨⟨n, end_⟩, hn, h⟩ := Except.bind_eq_ok.mp h
      cases h
      exact .negative (hminus ▸ hcs) hn
    · obtain ⟨⟨n, end_⟩, hn, h⟩ := Except.bind_eq_ok.mp h
      cases h
      exact .number hcs hdigit hn
    · obtain ⟨⟨s, end_⟩, hs, h⟩ := Except.bind_eq_ok.mp h
      cases h
      exact .string (hquote ▸ hcs) hs
    · exact hlist body (hbracket ▸ hcs) (hbracket ▸ h)
    · exact hobject body (hbrace ▸ hcs) (hbrace ▸ h)

/-- **What is read is spelled**, however deep it is nested. -/
theorem Read.sound_value (steps depth : Nat) : Sound (Read.value steps depth) := by
  induction depth with
  | zero =>
    intro cs rest v h
    refine spells_of_valueWith (fun body _ h => ?_) (fun body _ h => ?_) h
    · cases h
    · cases h
  | succ depth ih =>
    intro cs rest v h
    refine spells_of_valueWith (fun body hbody h => ?_) (fun body hbody h => ?_) h
    · obtain ⟨⟨vs, bracket⟩, hvs, h⟩ := Except.bind_eq_ok.mp h
      obtain ⟨end_, hclose, h⟩ := Except.bind_eq_ok.mp h
      cases h
      exact .array hbody (ih.items hvs) hclose
    · obtain ⟨⟨ms, bracket⟩, hms, h⟩ := Except.bind_eq_ok.mp h
      obtain ⟨end_, hclose, h⟩ := Except.bind_eq_ok.mp h
      cases h
      exact .object hbody (ih.members hms) hclose

/-! ## Texts -/

/-- A text that holds a value and nothing after it is read to its end. -/
theorem whole_of_ok {α : Type} {reader : Reader α} {cs rest : List Char} {x : α}
    (h : reader cs = .ok (x, rest)) (hend : skipBlanks rest = []) : whole reader cs = .ok x := by
  have hat : atEnd rest = .ok () := by
    rw [atEnd, hend]
    rfl
  refine (Except.bind_of_ok h _).trans ?_
  exact Except.bind_of_ok hat _

/-- **A text that spells a value holds it**, if nothing but blanks follow. -/
theorem ofText_of_spells {text : String} {v : Json} {rest : List Char}
    (h : Spells text.toList v rest) (hend : skipBlanks rest = []) (hd : v.depth ≤ maxDepth) :
    ofText text = .ok v :=
  whole_of_ok (h.value_eq_ok hd (Nat.lt_succ_self _)) hend

/-- Nothing but blanks follow what a whole text is read as. -/
theorem exists_rest_of_whole {α : Type} {reader : Reader α} {cs : List Char} {x : α}
    (h : whole reader cs = .ok x) : ∃ rest, reader cs = .ok (x, rest) ∧ skipBlanks rest = [] := by
  unfold whole at h
  obtain ⟨⟨y, rest⟩, hread, h⟩ := Except.bind_eq_ok.mp h
  obtain ⟨_, hat, h⟩ := Except.bind_eq_ok.mp h
  cases h
  refine ⟨rest, hread, ?_⟩
  unfold atEnd at hat
  dsimp only at hat
  split at hat
  · next hempty => exact List.isEmpty_iff.mp hempty
  · cases hat

/-- **A text that holds a value spells it**, and nothing but blanks follow. -/
theorem exists_spells_of_ofText {text : String} {v : Json} (h : ofText text = .ok v) :
    ∃ rest, Spells text.toList v rest ∧ skipBlanks rest = [] := by
  obtain ⟨rest, hread, hend⟩ := exists_rest_of_whole h
  exact ⟨rest, sound_value _ _ hread, hend⟩

end SiteManifest.Json
