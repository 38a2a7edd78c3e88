import Mathlib.Data.List.Forall2
import SiteManifest.Validation

/-!
# Drafts that differ in what is switched off

Two drafts are alike if they have the same entries switched on at the same places and agree on these.
What is said in an entry that is switched off does not matter, and neither does what is in a group that
is. The validation of such drafts is the same: they end with the same site or with the same violation,
and the same entries are told to be skipped.
-/

namespace SiteManifest

namespace Draft

/-! ## Likeness -/

/-- Two entries are both switched off, or they are both switched on and related. -/
structure AlikeBy {α : Type} (enabled : α → Bool) (R : α → α → Prop) (x y : α) : Prop where
  switch : enabled x = enabled y
  related : enabled x = true → R x y

/-- Entries that agree if they are switched on. -/
def Entry.Alike : Entry → Entry → Prop := AlikeBy (·.enabled) Eq

/-- Social links that agree if they are switched on. -/
def SocialLink.Alike : SocialLink → SocialLink → Prop := AlikeBy (·.enabled) Eq

/-- Groups that say the same and have items that are alike. -/
structure Group.Agrees (g g' : Group) : Prop where
  text : g.text = g'.text
  items : Option.Rel (List.Forall₂ Entry.Alike) g.items g'.items
  collapsed : g.collapsed = g'.collapsed

/-- Groups that agree if they are switched on. -/
def Group.Alike : Group → Group → Prop := AlikeBy (·.enabled) Agrees

/-- Themes whose lists hold entries that are alike, each at the same place. -/
structure Theme.Alike (t t' : Theme) : Prop where
  nav : Option.Rel (List.Forall₂ Entry.Alike) t.nav t'.nav
  sidebar : Option.Rel (List.Forall₂ Group.Alike) t.sidebar t'.sidebar
  socialLinks : Option.Rel (List.Forall₂ SocialLink.Alike) t.socialLinks t'.socialLinks
  lastUpdated : t.lastUpdated = t'.lastUpdated

/-- Drafts that differ in nothing but entries that are switched off. -/
structure Site.Alike (d d' : Site) : Prop where
  title : d.title = d'.title
  description : d.description = d'.description
  basePath : d.basePath = d'.basePath
  theme : Option.Rel Theme.Alike d.theme d'.theme

end Draft

namespace Validation

open Draft (AlikeBy)

/-! ## Validations of drafts that are alike -/

section Entries

variable {α β : Type} {enabled : α → Bool} {check : FieldPath → α → Validation β}
  {R : α → α → Prop} {field : FieldPath}

/-- An entry that is switched off is skipped in both lists, whatever it says. -/
theorem entriesFrom_of_alike
    (h : ∀ field x y, enabled x = true → R x y → check field x = check field y)
    {xs ys : List α} (hxs : List.Forall₂ (AlikeBy enabled R) xs ys) (i : Nat) :
    entriesFrom enabled check field i xs = entriesFrom enabled check field i ys := by
  induction hxs generalizing i with
  | nil => rfl
  | @cons x y xs ys hxy _ ih =>
    unfold entriesFrom
    rw [← hxy.switch]
    by_cases hx : enabled x = true
    · rw [if_pos hx, if_pos hx, h (field.item i) x y hx (hxy.related hx), ih (i + 1)]
    · rw [if_neg hx, if_neg hx, ih (i + 1)]

theorem entries_of_alike
    (h : ∀ field x y, enabled x = true → R x y → check field x = check field y)
    {xs ys : Option (List α)} (hxs : Option.Rel (List.Forall₂ (AlikeBy enabled R)) xs ys) :
    entries enabled check field xs = entries enabled check field ys := by
  cases hxs with
  | none => rfl
  | some hxs => exact entriesFrom_of_alike h hxs 0

end Entries

theorem entries_entry_of_alike {field : FieldPath} {xs ys : Option (List Draft.Entry)}
    (h : Option.Rel (List.Forall₂ Draft.Entry.Alike) xs ys) :
    entries (·.enabled) entry field xs = entries (·.enabled) entry field ys :=
  entries_of_alike (R := Eq) (fun field _ _ _ hxy => congrArg (entry field) hxy) h

theorem group_of_agrees (field : FieldPath) {g g' : Draft.Group} (h : g.Agrees g') :
    group field g = group field g' := by
  obtain ⟨text, items, collapsed, enabled⟩ := g
  obtain ⟨text', items', collapsed', enabled'⟩ := g'
  obtain ⟨ht, hi, hc⟩ := h
  cases ht
  cases hc
  cases hi with
  | none => rfl
  | some hi =>
    unfold group present
    simp only [pure_bind]
    rw [entries_entry_of_alike (.some hi)]

theorem theme_of_alike {field : FieldPath} {t t' : Draft.Theme} (h : t.Alike t') :
    theme field t = theme field t' := by
  have hsidebar : entries (·.enabled) group (field.key "sidebar") t.sidebar
      = entries (·.enabled) group (field.key "sidebar") t'.sidebar :=
    entries_of_alike (R := Draft.Group.Agrees) (fun field _ _ _ hxy => group_of_agrees field hxy)
      h.sidebar
  have hlinks : entries (·.enabled) socialLink (field.key "socialLinks") t.socialLinks
      = entries (·.enabled) socialLink (field.key "socialLinks") t'.socialLinks :=
    entries_of_alike (R := Eq) (fun field _ _ _ hxy => congrArg (socialLink field) hxy) h.socialLinks
  unfold theme
  rw [entries_entry_of_alike h.nav, hsidebar, hlinks, h.lastUpdated]

/-- What is switched off leaves no trace in the validation but that it is skipped. -/
theorem site_of_alike {d d' : Draft.Site} (h : d.Alike d') : site d = site d' := by
  obtain ⟨title, description, basePath, t⟩ := d
  obtain ⟨title', description', basePath', t'⟩ := d'
  obtain ⟨htitle, hdescription, hbase, htheme⟩ := h
  cases htitle
  cases hdescription
  cases hbase
  cases htheme with
  | none => rfl
  | some ht =>
    unfold site
    simp only [Option.getD_some]
    rw [theme_of_alike ht]

end Validation

end SiteManifest
