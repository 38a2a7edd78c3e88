import SiteManifest.FieldPath

/-!
# Texts of paths

A path can be told from its text if its keys hold no dot and no closing bracket. The text then ends in a
bracket exactly if the last step is a position, and what stands before the last dot or the last opening
bracket is the text of the parent.
-/

namespace SiteManifest

/-- The digits of a natural tell it. -/
theorem Decimal.digitsOf_injective {m n : Nat} (h : digitsOf m = digitsOf n) : m = n := by
  have hvalue := congrArg (Nat.ofDigitChars 10 · 0) h
  simpa only [digitsOf, Nat.ofDigitChars_ten_toDigits] using hvalue

theorem Decimal.not_mem_digitsOf {c : Char} (hc : c.isDigit = false) (n : Nat) :
    c ∉ digitsOf n := by
  intro h
  rw [Nat.isDigit_of_mem_toDigits (by decide) (by decide) h] at hc
  cases hc

/-- There is one way to cut a list at the last place of an element. -/
theorem append_cons_inj_of_not_mem {α : Type} {a : α} {xs xs' ys ys' : List α} (hys : a ∉ ys)
    (hys' : a ∉ ys') (h : xs ++ a :: ys = xs' ++ a :: ys') : xs = xs' ∧ ys = ys' := by
  simp only [List.append_eq_append_iff, List.cons_eq_append_iff] at h
  obtain ⟨_, rfl, ⟨rfl, htail⟩ | ⟨zs, rfl, rfl⟩⟩ | ⟨_, rfl, ⟨rfl, htail⟩ | ⟨zs, rfl, rfl⟩⟩ := h
  · cases htail
    exact ⟨(List.append_nil xs).symm, rfl⟩
  · exact absurd (List.mem_append_right zs (List.mem_cons_self ..)) hys
  · cases htail
    exact ⟨List.append_nil xs', rfl⟩
  · exact absurd (List.mem_append_right zs (List.mem_cons_self ..)) hys'

/-- There is one way to cut a list at the first place of an element. -/
theorem append_cons_inj_of_not_mem_front {α : Type} {a : α} {xs xs' ys ys' : List α} (hxs : a ∉ xs)
    (hxs' : a ∉ xs') (h : xs ++ a :: ys = xs' ++ a :: ys') : xs = xs' ∧ ys = ys' := by
  have hreverse := congrArg List.reverse h
  simp only [List.reverse_append, List.reverse_cons, List.append_assoc, List.singleton_append]
    at hreverse
  obtain ⟨hback, hfront⟩ := append_cons_inj_of_not_mem (mt List.mem_reverse.mp hxs)
    (mt List.mem_reverse.mp hxs') hreverse
  exact ⟨List.reverse_inj.mp hfront, List.reverse_inj.mp hback⟩

namespace FieldPath

/-- A key that can be told from what a text puts before and after a step. -/
structure PlainKey (name : String) : Prop where
  nonempty : name ≠ ""
  dot : '.' ∉ name.toList
  bracket : ']' ∉ name.toList

instance (name : String) : Decidable (PlainKey name) :=
  decidable_of_iff (name ≠ "" ∧ '.' ∉ name.toList ∧ ']' ∉ name.toList)
    ⟨fun h => ⟨h.1, h.2.1, h.2.2⟩, fun h => ⟨h.nonempty, h.dot, h.bracket⟩⟩

/-- All keys of a path are plain. -/
inductive Plain : FieldPath → Prop where
  | root : Plain .root
  | key {parent : FieldPath} {name : String} (h : Plain parent) (hname : PlainKey name) :
    Plain (.key parent name)
  | item {parent : FieldPath} {index : Nat} (h : Plain parent) : Plain (.item parent index)

/-! ## The characters of a text -/

theorem toList_text_key_root (name : String) : (key .root name).text.toList = name.toList := rfl

theorem toList_text_key {parent : FieldPath} (h : parent ≠ .root) (name : String) :
    (key parent name).text.toList = parent.text.toList ++ '.' :: name.toList := by
  cases parent with
  | root => exact absurd rfl h
  | key _ _ => simp [text]
  | item _ _ => simp [text]

theorem toList_text_item (parent : FieldPath) (index : Nat) :
    (item parent index).text.toList
      = parent.text.toList ++ '[' :: (Decimal.digitsOf index ++ [']']) := by
  simp [text, Decimal.natText]

/-- The text of a path that ends in a key ends in the key. -/
theorem suffix_text_key (parent : FieldPath) (name : String) :
    name.toList <:+ (key parent name).text.toList := by
  by_cases h : parent = .root
  · rw [h]
    exact List.suffix_refl _
  · rw [toList_text_key h]
    exact (List.suffix_cons '.' _).trans (List.suffix_append _ _)

theorem getLast?_text_item (parent : FieldPath) (index : Nat) :
    (item parent index).text.toList.getLast? = some ']' := by
  rw [toList_text_item, ← List.cons_append, ← List.append_assoc, List.getLast?_concat]

/-- Behind a key no text ends in a bracket, and none is empty. -/
theorem getLast?_text_key (parent : FieldPath) {name : String} (hname : PlainKey name) :
    ∃ c, (key parent name).text.toList.getLast? = some c ∧ c ≠ ']' := by
  obtain ⟨front, hfront⟩ := suffix_text_key parent name
  cases hlast : name.toList.getLast? with
  | none =>
    have hempty := String.toList_eq_nil_iff.mp (List.getLast?_eq_none_iff.mp hlast)
    exact absurd hempty hname.nonempty
  | some c =>
    refine ⟨c, by rw [← hfront, List.getLast?_append, hlast]; rfl, ?_⟩
    rintro rfl
    exact hname.bracket (List.mem_of_getLast? hlast)

/-! ## Paths of one text -/

theorem key_inj_of_text {p q : FieldPath} {name name' : String} (hname : PlainKey name)
    (hname' : PlainKey name') (h : (key p name).text = (key q name').text) :
    p.text = q.text ∧ name = name' := by
  have hlist := congrArg String.toList h
  by_cases hp : p = .root
  · subst hp
    by_cases hq : q = .root
    · subst hq
      exact ⟨rfl, h⟩
    · -- one text has a dot before its last key, the other has none
      rw [toList_text_key_root, toList_text_key hq] at hlist
      exact absurd (hlist ▸ List.mem_append_right _ (List.mem_cons_self ..)) hname.dot
  · by_cases hq : q = .root
    · subst hq
      rw [toList_text_key_root, toList_text_key hp] at hlist
      exact absurd (hlist ▸ List.mem_append_right _ (List.mem_cons_self ..)) hname'.dot
    · rw [toList_text_key hp, toList_text_key hq] at hlist
      obtain ⟨hparent, heq⟩ := append_cons_inj_of_not_mem hname.dot hname'.dot hlist
      exact ⟨String.toList_inj.mp hparent, String.toList_inj.mp heq⟩

theorem item_inj_of_text {p q : FieldPath} {i j : Nat} (h : (item p i).text = (item q j).text) :
    p.text = q.text ∧ i = j := by
  have hlist := congrArg String.toList h
  rw [toList_text_item, toList_text_item] at hlist
  have hbracket : ∀ n : Nat, '[' ∉ Decimal.digitsOf n ++ [']'] := by
    intro n
    rw [List.mem_append, not_or]
    exact ⟨Decimal.not_mem_digitsOf rfl n, by decide⟩
  obtain ⟨hparent, hdigits⟩ := append_cons_inj_of_not_mem (hbracket i) (hbracket j) hlist
  exact ⟨String.toList_inj.mp hparent,
    Decimal.digitsOf_injective (List.append_cancel_right hdigits)⟩

/-! ## Steps of different kinds -/

theorem text_root_ne_item (p : FieldPath) (i : Nat) : root.text ≠ (item p i).text := by
  intro h
  have hlast := getLast?_text_item p i
  rw [← h] at hlast
  cases hlast

theorem text_root_ne_key {p : FieldPath} {name : String} (hname : PlainKey name) :
    root.text ≠ (key p name).text := by
  intro h
  obtain ⟨c, hlast, -⟩ := getLast?_text_key p hname
  rw [← h] at hlast
  cases hlast

theorem text_key_ne_item {p q : FieldPath} {name : String} {i : Nat} (hname : PlainKey name) :
    (key p name).text ≠ (item q i).text := by
  intro h
  obtain ⟨c, hlast, hc⟩ := getLast?_text_key p hname
  rw [h, getLast?_text_item] at hlast
  exact hc (Option.some.inj hlast).symm

/-- **A path can be told from its text.** The induction is on the path, from its last step on. -/
theorem text_injective {p q : FieldPath} (hp : p.Plain) (hq : q.Plain) (h : p.text = q.text) :
    p = q := by
  induction hp generalizing q with
  | root =>
    cases hq with
    | root => rfl
    | key _ hname => exact absurd h (text_root_ne_key hname)
    | item _ => exact absurd h (text_root_ne_item _ _)
  | key _ hname ih =>
    cases hq with
    | root => exact absurd h.symm (text_root_ne_key hname)
    | key hparent hname' =>
      obtain ⟨htext, rfl⟩ := key_inj_of_text hname hname' h
      rw [ih hparent htext]
    | item _ => exact absurd h (text_key_ne_item hname)
  | item _ ih =>
    cases hq with
    | root => exact absurd h.symm (text_root_ne_item _ _)
    | key _ hname => exact absurd h.symm (text_key_ne_item hname)
    | item hparent =>
      obtain ⟨htext, rfl⟩ := item_inj_of_text h
      rw [ih hparent htext]

/-- A dot inside a key would be taken for a step. -/
example : (key (key .root "a") "b").text = (key .root "a.b").text := by rfl

end FieldPath

end SiteManifest
