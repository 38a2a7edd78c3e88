import Mathlib.Data.List.Forall2
import SiteManifest.Proofs.Site.Valid
import SiteManifest.Proofs.Traced
import SiteManifest.Validation

/-!
# What validation makes of a draft

A draft describes a site if the site has the texts of the draft and keeps the enabled entries of its
lists in order. The main statement is that validation ends with a site exactly if the draft describes
the site and the site is valid.

One statement of the same form is proved for each part of a draft, from the leaves up, so no part of
the validation has to be opened twice.
-/

namespace SiteManifest

/-! ## Descriptions -/

namespace Draft

/-- An entry that has the text and the link of a draft. -/
structure Entry.Describes (d : Entry) (e : SiteManifest.Entry) : Prop where
  text : d.text = some e.text
  link : d.link = some e.link

/-- A group that has the text and the collapse of a draft, and its enabled items. -/
structure Group.Describes (d : Group) (g : SiteManifest.Group) : Prop where
  text : d.text = some g.text
  items : ∃ items, d.items = some items ∧
    List.Forall₂ Entry.Describes (items.filter (·.enabled)) g.items
  collapsed : g.collapsed = d.collapsed

/-- A social link whose icon is the one that a draft names. -/
structure SocialLink.Describes (d : SocialLink) (s : SiteManifest.SocialLink) : Prop where
  icon : ∃ word, d.icon = some word ∧ Icon.ofName? word = some s.icon
  link : d.link = some s.link

/-- A label that has the text of a draft, and its styles or those of the default. -/
structure LastUpdated.Describes (d : LastUpdated) (l : SiteManifest.LastUpdated) : Prop where
  text : d.text = some l.text
  date : l.format.date = (d.format.bind (·.date)).getD .full
  time : l.format.time = (d.format.bind (·.time)).getD .medium

/-- A theme that keeps the enabled entries of the three lists of a draft. A list that is not given is
empty. -/
structure Theme.Describes (d : Theme) (t : SiteManifest.Theme) : Prop where
  nav : List.Forall₂ Entry.Describes ((d.nav.getD []).filter (·.enabled)) t.nav
  sidebar : List.Forall₂ Group.Describes ((d.sidebar.getD []).filter (·.enabled)) t.sidebar
  socialLinks : List.Forall₂ SocialLink.Describes
    ((d.socialLinks.getD []).filter (·.enabled)) t.socialLinks
  lastUpdated : Option.Rel LastUpdated.Describes d.lastUpdated t.lastUpdated

/-- A site that has the texts of a draft and its theme. A description that is not given is empty. -/
structure Site.Describes (d : Site) (s : SiteManifest.Site) : Prop where
  title : d.title = some s.title
  description : s.description = d.description.getD ""
  basePath : d.basePath = some s.basePath
  theme : (d.theme.getD ⟨none, none, none, none⟩).Describes s.theme

end Draft

namespace Validation

/-! ## Leaves -/

theorem present_eq_ok {α : Type} {field : FieldPath} {x : Option α} {a : α} :
    (present field x).result = .ok a ↔ x = some a := by
  cases x with
  | none => simp [present]
  | some b => simp [present]

theorem label_eq_ok {field : FieldPath} {text : Option String} {s : String} :
    (label field text).result = .ok s ↔ text = some s ∧ Text.Shows s := by
  unfold label
  simp only [Traced.result_bind_eq_ok, present_eq_ok]
  constructor
  · rintro ⟨t, ht, h⟩
    split at h
    · obtain ⟨-, h, -⟩ := Traced.result_bind_eq_ok.mp h
      cases h
    · next hshows =>
      cases h
      exact ⟨ht, Text.shows_iff.mpr (by simpa using hshows)⟩
  · rintro ⟨ht, hshows⟩
    refine ⟨s, ht, ?_⟩
    rw [if_neg (by rw [Text.shows_iff.mp hshows]; exact Bool.false_ne_true)]
    rfl

theorem goodLink_eq_ok {flaw? : String → Option LinkFlaw} {field : FieldPath}
    {link : Option String} {s : String} :
    (goodLink flaw? field link).result = .ok s ↔ link = some s ∧ flaw? s = none := by
  unfold goodLink
  simp only [Traced.result_bind_eq_ok, present_eq_ok]
  constructor
  · rintro ⟨t, ht, h⟩
    split at h
    · cases h
    · next hflaw =>
      cases h
      exact ⟨ht, hflaw⟩
  · rintro ⟨ht, hflaw⟩
    refine ⟨s, ht, ?_⟩
    rw [hflaw]
    rfl

/-! ## Lists of entries -/

section Entries

variable {α β : Type} {enabled : α → Bool} {check : FieldPath → α → Validation β}
  {D : α → β → Prop} {V : β → Prop} {field : FieldPath}

/-- Whether a list of entries is good does not hang on the position that it starts from. -/
theorem entriesFrom_eq_ok (h : ∀ field x y, (check field x).result = .ok y ↔ D x y ∧ V y) :
    ∀ (xs : List α) (ys : List β) (i : Nat),
      (entriesFrom enabled check field i xs).result = .ok ys
        ↔ List.Forall₂ D (xs.filter enabled) ys ∧ ∀ y ∈ ys, V y
  | [], ys, _ => by
    rw [entriesFrom, List.filter_nil, List.forall₂_nil_left_iff]
    constructor
    · intro hys
      cases hys
      exact ⟨rfl, fun y hy => by cases hy⟩
    · rintro ⟨rfl, -⟩
      rfl
  | x :: xs, ys, i => by
    have ih := fun ys => entriesFrom_eq_ok h xs ys (i + 1)
    rw [entriesFrom]
    by_cases hx : enabled x = true
    · rw [if_pos hx, List.filter_cons_of_pos hx]
      simp only [Traced.result_bind_eq_ok, h, ih, List.forall₂_cons_left_iff]
      constructor
      · rintro ⟨z, ⟨hD, hV⟩, zs, ⟨hDs, hVs⟩, hz⟩
        cases hz
        exact ⟨⟨z, zs, hD, hDs, rfl⟩, List.forall_mem_cons.mpr ⟨hV, hVs⟩⟩
      · rintro ⟨⟨z, zs, hD, hDs, rfl⟩, hVs⟩
        obtain ⟨hV, hVs⟩ := List.forall_mem_cons.mp hVs
        exact ⟨z, ⟨hD, hV⟩, zs, ⟨hDs, hVs⟩, rfl⟩
    · -- an entry that is switched off is told, and nothing else happens
      rw [if_neg hx, List.filter_cons_of_neg hx, ← ih]
      simp only [Traced.result_bind_eq_ok]
      exact ⟨fun ⟨_, _, hxs⟩ => hxs, fun hxs => ⟨(), rfl, hxs⟩⟩

/-- A list of entries is good if every enabled one is. -/
theorem entries_eq_ok (h : ∀ field x y, (check field x).result = .ok y ↔ D x y ∧ V y)
    (xs : Option (List α)) (ys : List β) :
    (entries enabled check field xs).result = .ok ys
      ↔ List.Forall₂ D ((xs.getD []).filter enabled) ys ∧ ∀ y ∈ ys, V y :=
  entriesFrom_eq_ok h (xs.getD []) ys 0

end Entries

/-! ## Parts of a draft -/

theorem entry_eq_ok (field : FieldPath) (d : Draft.Entry) (e : Entry) :
    (entry field d).result = .ok e ↔ d.Describes e ∧ e.Valid := by
  unfold entry
  simp only [Traced.result_bind_eq_ok, label_eq_ok, goodLink_eq_ok, pageLinkFlaw?_eq_none]
  constructor
  · rintro ⟨text, ⟨ht, hshows⟩, link, ⟨hl, hlink⟩, he⟩
    cases he
    exact ⟨⟨ht, hl⟩, ⟨hshows, hlink⟩⟩
  · rintro ⟨hd, hv⟩
    exact ⟨e.text, ⟨hd.text, hv.text⟩, e.link, ⟨hd.link, hv.link⟩, rfl⟩

theorem group_eq_ok (field : FieldPath) (d : Draft.Group) (g : Group) :
    (group field d).result = .ok g ↔ d.Describes g ∧ g.Valid := by
  unfold group
  simp only [Traced.result_bind_eq_ok, label_eq_ok, present_eq_ok, entries_eq_ok entry_eq_ok]
  constructor
  · rintro ⟨text, ⟨ht, hshows⟩, items, hi, kept, ⟨hkept, hvalid⟩, hg⟩
    cases hg
    exact ⟨⟨ht, ⟨items, hi, hkept⟩, rfl⟩, ⟨hshows, hvalid⟩⟩
  · rintro ⟨hd, hv⟩
    obtain ⟨items, hi, hkept⟩ := hd.items
    refine ⟨g.text, ⟨hd.text, hv.text⟩, items, hi, g.items, ⟨hkept, hv.items⟩, ?_⟩
    rw [← hd.collapsed]
    rfl

theorem socialLink_eq_ok (field : FieldPath) (d : Draft.SocialLink) (s : SocialLink) :
    (socialLink field d).result = .ok s ↔ d.Describes s ∧ s.Valid := by
  unfold socialLink
  simp only [Traced.result_bind_eq_ok, present_eq_ok]
  constructor
  · rintro ⟨word, hw, h⟩
    split at h
    · cases h
    · next icon hicon =>
      simp only [Traced.result_bind_eq_ok, goodLink_eq_ok, socialLinkFlaw?_eq_none] at h
      obtain ⟨link, ⟨hl, hlink⟩, hs⟩ := h
      cases hs
      exact ⟨⟨⟨word, hw, hicon⟩, hl⟩, ⟨hlink⟩⟩
  · rintro ⟨hd, hv⟩
    obtain ⟨word, hw, hicon⟩ := hd.icon
    refine ⟨word, hw, ?_⟩
    rw [hicon]
    simp only [Traced.result_bind_eq_ok, goodLink_eq_ok, socialLinkFlaw?_eq_none]
    exact ⟨s.link, ⟨hd.link, hv.link⟩, rfl⟩

theorem lastUpdated_eq_ok (field : FieldPath) (d : Draft.LastUpdated) (l : LastUpdated) :
    (lastUpdated field d).result = .ok l ↔ d.Describes l ∧ l.Valid := by
  unfold lastUpdated
  simp only [Traced.result_bind_eq_ok, label_eq_ok]
  constructor
  · rintro ⟨text, ⟨ht, hshows⟩, hl⟩
    cases hl
    exact ⟨⟨ht, rfl, rfl⟩, ⟨hshows⟩⟩
  · rintro ⟨hd, hv⟩
    refine ⟨l.text, ⟨hd.text, hv.text⟩, ?_⟩
    have hformat : labelFormat d.format = l.format := by
      unfold labelFormat LabelFormat.default
      rw [← hd.date, ← hd.time]
    rw [hformat]
    rfl

theorem theme_eq_ok (field : FieldPath) (d : Draft.Theme) (t : Theme) :
    (theme field d).result = .ok t ↔ d.Describes t ∧ t.Valid := by
  unfold theme
  simp only [Traced.result_bind_eq_ok, entries_eq_ok entry_eq_ok, entries_eq_ok group_eq_ok,
    entries_eq_ok socialLink_eq_ok]
  constructor
  · rintro ⟨nav, ⟨hnav, vnav⟩, sidebar, ⟨hsidebar, vsidebar⟩, links, ⟨hlinks, vlinks⟩, h⟩
    split at h
    · next hlast =>
      cases h
      refine ⟨⟨hnav, hsidebar, hlinks, ?_⟩, ⟨vnav, vsidebar, vlinks, fun l hl => by cases hl⟩⟩
      rw [hlast]
      exact .none
    · next last hlast =>
      simp only [Traced.result_bind_eq_ok, lastUpdated_eq_ok] at h
      obtain ⟨l, ⟨hl, vl⟩, h⟩ := h
      cases h
      refine ⟨⟨hnav, hsidebar, hlinks, ?_⟩, ⟨vnav, vsidebar, vlinks, ?_⟩⟩
      · rw [hlast]
        exact .some hl
      · intro l' hl'
        cases hl'
        exact vl
  · rintro ⟨hd, hv⟩
    refine ⟨t.nav, ⟨hd.nav, hv.nav⟩, t.sidebar, ⟨hd.sidebar, hv.sidebar⟩,
      t.socialLinks, ⟨hd.socialLinks, hv.socialLinks⟩, ?_⟩
    obtain ⟨nav, sidebar, links, last⟩ := t
    -- the theme has a label exactly if the draft has one
    have hlast := hd.lastUpdated
    cases hraw : d.lastUpdated with
    | none =>
      rw [hraw] at hlast
      cases hlast
      rfl
    | some raw =>
      rw [hraw] at hlast
      cases hlast with
      | some hl =>
        simp only [Traced.result_bind_eq_ok, lastUpdated_eq_ok]
        exact ⟨_, ⟨hl, hv.lastUpdated _ rfl⟩, rfl⟩

/-- **Validation makes of a draft the site that it describes, if this is valid.** -/
theorem site_eq_ok (d : Draft.Site) (s : Site) :
    (site d).result = .ok s ↔ d.Describes s ∧ s.Valid := by
  unfold site
  simp only [Traced.result_bind_eq_ok, label_eq_ok, present_eq_ok]
  constructor
  · rintro ⟨title, ⟨ht, hshows⟩, basePath, hb, h⟩
    split at h
    · obtain ⟨-, h, -⟩ := Traced.result_bind_eq_ok.mp h
      cases h
    · next hbase =>
      simp only [Traced.result_bind_eq_ok, theme_eq_ok] at h
      obtain ⟨t, ⟨hd, hv⟩, hs⟩ := h
      cases hs
      exact ⟨⟨ht, rfl, hb, hd⟩, ⟨hshows, isBasePath_iff.mp (by simpa using hbase), hv⟩⟩
  · rintro ⟨hd, hv⟩
    refine ⟨s.title, ⟨hd.title, hv.title⟩, s.basePath, hd.basePath, ?_⟩
    rw [if_neg (by rw [isBasePath_iff.mpr hv.basePath]; exact Bool.false_ne_true)]
    simp only [Traced.result_bind_eq_ok, theme_eq_ok]
    refine ⟨s.theme, ⟨hd.theme, hv.theme⟩, ?_⟩
    rw [← hd.description]
    rfl

end Validation

end SiteManifest
