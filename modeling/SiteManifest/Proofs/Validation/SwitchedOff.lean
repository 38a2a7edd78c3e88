import SiteManifest.Proofs.Validation.Alike
import SiteManifest.Proofs.Validation.Pruned

/-!
# Switching off

An entry of a draft that passes the validation can be switched off: the draft passes again, and the
site is the same but for this one entry. Together with drafts that are alike and drafts without their
disabled entries, this says that what is switched off does not interfere with the validation.
-/

namespace SiteManifest

namespace Draft

/-! ## Entries and their places -/

/-- A place of an entry in a draft. -/
inductive Spot where
  | nav (i : Nat)
  | group (i : Nat)
  | item (group i : Nat)
  | socialLink (i : Nat)
  deriving DecidableEq, Repr

/-- There is an entry at a place, and it is switched on. -/
def Theme.Enables (t : Theme) : Spot → Prop
  | .nav i => ∃ e, (t.nav.getD [])[i]? = some e ∧ e.enabled = true
  | .group i => ∃ g, (t.sidebar.getD [])[i]? = some g ∧ g.enabled = true
  | .item i j =>
    ∃ g e, (t.sidebar.getD [])[i]? = some g ∧ (g.items.getD [])[j]? = some e ∧ e.enabled = true
  | .socialLink i => ∃ s, (t.socialLinks.getD [])[i]? = some s ∧ s.enabled = true

/-- An item that is switched off. -/
def Group.switchOff (g : Group) (j : Nat) : Group :=
  { g with items := g.items.map (·.modify j fun e => { e with enabled := false }) }

/-- A theme with the entry at a place switched off. -/
def Theme.switchOff (t : Theme) : Spot → Theme
  | .nav i => { t with nav := t.nav.map (·.modify i fun e => { e with enabled := false }) }
  | .group i => { t with sidebar := t.sidebar.map (·.modify i fun g => { g with enabled := false }) }
  | .item i j => { t with sidebar := t.sidebar.map (·.modify i (·.switchOff j)) }
  | .socialLink i =>
    { t with socialLinks := t.socialLinks.map (·.modify i fun s => { s with enabled := false }) }

/-- A theme without the entry that it has from a place of a draft: the one whose number is the number
of enabled entries before that place. From a group that is switched off there is none. -/
def Theme.without (t : Theme) (s : SiteManifest.Theme) : Spot → SiteManifest.Theme
  | .nav i => { s with nav := s.nav.eraseIdx (rank (·.enabled) t.nav i) }
  | .group i => { s with sidebar := s.sidebar.eraseIdx (rank (·.enabled) t.sidebar i) }
  | .item i j =>
    match (t.sidebar.getD [])[i]?.filter (·.enabled) with
    | none => s
    | some g =>
      { s with sidebar := s.sidebar.modify (rank (·.enabled) t.sidebar i) fun g' =>
        { g' with items := g'.items.eraseIdx (rank (·.enabled) g.items j) } }
  | .socialLink i => { s with socialLinks := s.socialLinks.eraseIdx (rank (·.enabled) t.socialLinks i) }

/-- There is an entry at a place of a draft, and it is switched on. -/
def Site.Enables (d : Site) (spot : Spot) : Prop := ∃ t, d.theme = some t ∧ t.Enables spot

/-- A draft with the entry at a place switched off. -/
def Site.switchOff (d : Site) (spot : Spot) : Site :=
  { d with theme := d.theme.map (·.switchOff spot) }

/-- A site without the entry that it has from a place of a draft. -/
def Site.without (d : Site) (s : SiteManifest.Site) (spot : Spot) : SiteManifest.Site :=
  { s with theme := (d.theme.getD ⟨none, none, none, none⟩).without s.theme spot }

/-! ## Lists with one entry changed -/

section Lists

variable {α β : Type} {enabled : α → Bool} {R : α → β → Prop} {P : α → Prop} {f : α → α} {g : β → β}
  {xs : List α} {ys : List β} {x : α} {i k : Nat}

/-- A list that is filtered, taken apart at one of its entries. -/
theorem filter_eq_append (hx : xs[i]? = some x) :
    xs.filter enabled
      = (xs.take i).filter enabled ++ (x :: xs.drop (i + 1)).filter enabled := by
  obtain ⟨hi, rfl⟩ := List.getElem?_eq_some_iff.mp hx
  rw [← List.drop_eq_getElem_cons hi, ← List.filter_append, List.take_append_drop]

theorem filter_modify_eq_append (hx : xs[i]? = some x) :
    (xs.modify i f).filter enabled
      = (xs.take i).filter enabled ++ (f x :: xs.drop (i + 1)).filter enabled := by
  obtain ⟨hi, rfl⟩ := List.getElem?_eq_some_iff.mp hx
  rw [List.modify_eq_take_cons_drop hi, List.filter_append]

/-- The number of an entry that is switched on is its place among the entries that are. -/
theorem getElem?_filter_countP (hx : xs[i]? = some x) (hen : enabled x = true) :
    (xs.filter enabled)[(xs.take i).countP enabled]? = some x := by
  rw [filter_eq_append hx, List.countP_eq_length_filter, List.getElem?_append_right (Nat.le_refl _),
    Nat.sub_self, List.filter_cons_of_pos hen]
  rfl

theorem filter_modify_of_off (hx : xs[i]? = some x) (hen : enabled x = true)
    (hoff : enabled (f x) = false) :
    (xs.modify i f).filter enabled = (xs.filter enabled).eraseIdx ((xs.take i).countP enabled) := by
  have hnot : ¬enabled (f x) = true := by
    rw [hoff]
    exact Bool.false_ne_true
  rw [filter_modify_eq_append hx, filter_eq_append hx, List.filter_cons_of_pos hen,
    List.filter_cons_of_neg hnot, List.countP_eq_length_filter,
    List.eraseIdx_append_of_length_le (Nat.le_refl _), Nat.sub_self]
  rfl

theorem filter_modify_of_on (hx : xs[i]? = some x) (hen : enabled x = true)
    (hon : enabled (f x) = true) :
    (xs.modify i f).filter enabled = (xs.filter enabled).modify ((xs.take i).countP enabled) f := by
  rw [filter_modify_eq_append hx, filter_eq_append hx, List.filter_cons_of_pos hen,
    List.filter_cons_of_pos hon, List.countP_eq_length_filter, List.modify_eq_take_drop,
    List.take_left, List.drop_left]
  rfl

/-- An entry that is switched off can be changed, if it stays switched off. -/
theorem filter_modify_of_not (hx : xs[i]? = some x) (hen : enabled x = false)
    (hoff : enabled (f x) = false) : (xs.modify i f).filter enabled = xs.filter enabled := by
  rw [← Bool.not_eq_true] at hen hoff
  rw [filter_modify_eq_append hx, filter_eq_append hx, List.filter_cons_of_neg hen,
    List.filter_cons_of_neg hoff]

theorem forall₂_eraseIdx (h : List.Forall₂ R xs ys) (k : Nat) :
    List.Forall₂ R (xs.eraseIdx k) (ys.eraseIdx k) := by
  rw [List.eraseIdx_eq_take_drop_succ, List.eraseIdx_eq_take_drop_succ]
  exact List.rel_append (List.forall₂_take k h) (List.forall₂_drop (k + 1) h)

theorem forall₂_modify (h : List.Forall₂ R xs ys) (hx : xs[k]? = some x)
    (hfg : ∀ y, R x y → R (f x) (g y)) : List.Forall₂ R (xs.modify k f) (ys.modify k g) := by
  induction h generalizing k with
  | nil => cases hx
  | cons hxy h ih =>
    cases k with
    | zero =>
      cases hx
      exact .cons (hfg _ hxy) h
    | succ k => exact .cons hxy (ih hx)

theorem forall_mem_modify (h : ∀ x ∈ xs, P x) (hf : ∀ x, P x → P (f x)) :
    ∀ x ∈ xs.modify k f, P x := by
  intro x hx
  obtain ⟨i, hi, rfl⟩ := List.mem_iff_getElem.mp hx
  rw [List.getElem_modify]
  rw [List.length_modify] at hi
  split
  · exact hf _ (h _ (List.getElem_mem hi))
  · exact h _ (List.getElem_mem hi)

end Lists

/-! ## The site that is left -/

theorem getD_map_modify {α : Type} (xs : Option (List α)) (i : Nat) (f : α → α) :
    (xs.map (·.modify i f)).getD [] = (xs.getD []).modify i f :=
  getD_map_of_nil (List.modify_nil ..) xs

/-- What a list describes when one of its enabled entries is switched off. -/
theorem forall₂_switchOff {α β : Type} {enabled : α → Bool} {R : α → β → Prop} {off : α → α}
    {xs : Option (List α)} {ys : List β} {i : Nat} {x : α}
    (hx : (xs.getD [])[i]? = some x) (hen : enabled x = true) (hoff : enabled (off x) = false)
    (h : List.Forall₂ R ((xs.getD []).filter enabled) ys) :
    List.Forall₂ R (((xs.map (·.modify i off)).getD []).filter enabled)
      (ys.eraseIdx (rank enabled xs i)) := by
  rw [getD_map_modify, filter_modify_of_off hx hen hoff]
  exact forall₂_eraseIdx h _

theorem Group.describes_switchOff {g : Group} {g' : SiteManifest.Group} (h : g.Describes g')
    {j : Nat} {e : Entry} (he : (g.items.getD [])[j]? = some e) (hen : e.enabled = true) :
    (g.switchOff j).Describes
      { g' with items := g'.items.eraseIdx (rank (·.enabled) g.items j) } := by
  obtain ⟨items, hi, hkept⟩ := h.items
  refine ⟨h.text, ⟨items.modify j fun e => { e with enabled := false }, ?_, ?_⟩, h.collapsed⟩
  · unfold switchOff
    rw [hi]
    rfl
  · rw [hi] at he ⊢
    exact forall₂_switchOff he hen rfl hkept

theorem Theme.describes_switchOff {t : Theme} {s : SiteManifest.Theme} (h : t.Describes s)
    {spot : Spot} (hspot : t.Enables spot) :
    (t.switchOff spot).Describes (t.without s spot) := by
  cases spot with
  | nav i =>
    obtain ⟨e, he, hen⟩ := hspot
    exact { h with nav := forall₂_switchOff he hen rfl h.nav }
  | group i =>
    obtain ⟨g, hg, hen⟩ := hspot
    exact { h with sidebar := forall₂_switchOff hg hen rfl h.sidebar }
  | socialLink i =>
    obtain ⟨l, hl, hen⟩ := hspot
    exact { h with socialLinks := forall₂_switchOff hl hen rfl h.socialLinks }
  | item i j =>
    obtain ⟨g, e, hg, he, hen⟩ := hspot
    dsimp only [switchOff, without]
    rw [hg]
    cases hgroup : g.enabled with
    | true =>
      have hfilter := filter_modify_of_on (f := (·.switchOff j)) hg hgroup hgroup
      rw [Option.filter_some_pos hgroup]
      refine { h with sidebar := ?_ }
      rw [getD_map_modify, hfilter]
      exact forall₂_modify h.sidebar (getElem?_filter_countP hg hgroup) fun g' hg' =>
        Group.describes_switchOff hg' he hen
    | false =>
      -- the group does not come into the site, so the site has no such item
      have hfilter := filter_modify_of_not (f := (·.switchOff j)) hg hgroup hgroup
      rw [Option.filter_some_neg hgroup]
      refine { h with sidebar := ?_ }
      rw [getD_map_modify, hfilter]
      exact h.sidebar

/-- Nothing that stays in a theme is made invalid. -/
theorem Theme.valid_without {t : Theme} {s : SiteManifest.Theme} (h : s.Valid) (spot : Spot) :
    (t.without s spot).Valid := by
  cases spot with
  | nav i => exact { h with nav := fun e he => h.nav e (List.mem_of_mem_eraseIdx he) }
  | group i => exact { h with sidebar := fun g hg => h.sidebar g (List.mem_of_mem_eraseIdx hg) }
  | socialLink i =>
    exact { h with socialLinks := fun l hl => h.socialLinks l (List.mem_of_mem_eraseIdx hl) }
  | item i j =>
    unfold without
    dsimp only
    split
    · exact h
    · next g _ =>
      have hitems : ∀ g' : SiteManifest.Group, g'.Valid →
          Group.Valid { g' with items := g'.items.eraseIdx (rank (·.enabled) g.items j) } :=
        fun g' hg' => { hg' with items := fun e he => hg'.items e (List.mem_of_mem_eraseIdx he) }
      exact { h with sidebar := forall_mem_modify h.sidebar hitems }

end Draft

namespace Validation

theorem result_switchOff {d : Draft.Site} {s : Site} (h : (site d).result = .ok s)
    {spot : Draft.Spot} (hspot : d.Enables spot) :
    (site (d.switchOff spot)).result = .ok (d.without s spot) := by
  obtain ⟨t, ht, hspot⟩ := hspot
  obtain ⟨hd, hv⟩ := (site_eq_ok d s).mp h
  obtain ⟨title, description, basePath, _⟩ := d
  cases ht
  refine (site_eq_ok _ _).mpr ⟨?_, ?_⟩
  · exact { hd with theme := Draft.Theme.describes_switchOff hd.theme hspot }
  · exact { hv with theme := Draft.Theme.valid_without hv.theme spot }

/-- **What is switched off does not interfere with the validation.** What is said there does not
matter, deleting it changes only the numbers in reports, and switching one more entry off takes this
entry out of the site and nothing else. -/
theorem disabled_do_not_interfere (d : Draft.Site) :
    (∀ d', d.Alike d' → site d' = site d)
      ∧ (site d.pruned).result = (site d).result.mapError (Violation.moved d.renumber)
      ∧ ∀ s spot, (site d).result = .ok s → d.Enables spot →
        (site (d.switchOff spot)).result = .ok (d.without s spot) :=
  ⟨fun _ h => (site_of_alike h).symm, result_pruned d, fun _ _ h hspot => result_switchOff h hspot⟩

/-- A draft with entries that are switched off at both levels, and what may be said there instead. With
an item that has no link, the report counts the entries before it, and those that are left. -/
theorem disabled_do_not_interfere_levels :
    let draft (off : Draft.Entry) (group : Draft.Group) (link : Option String) : Draft.Site :=
      ⟨some "Docs", none, some "/", some ⟨some [off, ⟨some "Home", some "/", true⟩],
        some [group, ⟨some "Guide", some [off, ⟨some "Start", link, true⟩], none, true⟩], none, none⟩⟩
    let d := draft ⟨none, some "x", false⟩ ⟨none, none, none, false⟩ (some "/start")
    let d' := draft ⟨some " ", none, false⟩ ⟨some "", some [⟨none, none, true⟩], some true, false⟩
      (some "/start")
    let bad := draft ⟨none, some "x", false⟩ ⟨none, none, none, false⟩ none
    let path (i j : Nat) : FieldPath :=
      (((((FieldPath.top "theme").key "sidebar").item i).key "items").item j).key "link"
    let s (items : List Entry) : Site :=
      ⟨"Docs", "", "/", ⟨[⟨"Home", "/"⟩], [⟨"Guide", items, none⟩], [], none⟩⟩
    (d.Alike d' ∧ (site d).result = .ok (s [⟨"Start", "/start"⟩]) ∧ site d' = site d)
      ∧ ((site bad).result = .error (.missing (path 1 1))
        ∧ (site bad.pruned).result = .error (.missing (path 0 0)))
      ∧ (d.Enables (.item 1 1) ∧ (site (d.switchOff (.item 1 1))).result = .ok (s [])) := by
  intro draft d d' bad path s
  have hsite : (site d).result = .ok (s [⟨"Start", "/start"⟩]) := rfl
  have hbad : (site bad).result = .error (.missing (path 1 1)) := rfl
  have halike : d.Alike d' := by
    refine ⟨rfl, rfl, rfl, .some ⟨.some ?_, .some ?_, .none, rfl⟩⟩
    · exact .cons ⟨rfl, nofun⟩ (.cons ⟨rfl, fun _ => rfl⟩ .nil)
    · refine .cons ⟨rfl, nofun⟩ (.cons ⟨rfl, fun _ => ⟨rfl, .some ?_, rfl⟩⟩ .nil)
      exact .cons ⟨rfl, nofun⟩ (.cons ⟨rfl, fun _ => rfl⟩ .nil)
  have hspot : d.Enables (.item 1 1) := ⟨_, rfl, _, _, rfl, rfl, rfl⟩
  refine ⟨⟨halike, hsite, (disabled_do_not_interfere d).1 d' halike⟩, ⟨hbad, ?_⟩, hspot, ?_⟩
  · rw [(disabled_do_not_interfere bad).2.1, hbad]
    rfl
  · rw [(disabled_do_not_interfere d).2.2 _ _ hsite hspot]
    rfl

end Validation

end SiteManifest
