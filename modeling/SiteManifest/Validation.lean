import SiteManifest.Draft
import SiteManifest.Event
import SiteManifest.Site.Basic
import SiteManifest.Traced
import SiteManifest.Violation

/-!
# Validation

A draft becomes a site if it breaks no rule. Everything is looked at in the order in which the fields
are declared, and the first violation ends the validation. Entries that are switched off are left out
and not looked at; that they were skipped is told. Positions in reports are those of the draft.
-/

namespace SiteManifest

/-- The validation of a part of a draft. -/
abbrev Validation := Traced Event Violation

namespace Validation

/-- A field that must be given. -/
def present {α : Type} (field : FieldPath) : Option α → Validation α
  | some x => pure x
  | none => throw (.missing field)

/-- A text that must be given and must not be blank. -/
def label (field : FieldPath) (text : Option String) : Validation String := do
  let text ← present field text
  if Text.isBlank text then throw (.emptyText field)
  return text

/-- A link that must be given and must not have a flaw. -/
def goodLink (flaw? : String → Option LinkFlaw) (field : FieldPath) (link : Option String) :
    Validation String := do
  let link ← present field link
  match flaw? link with
  | some flaw => throw (.invalidLink field link flaw)
  | none => return link

/-- The enabled ones of a list of entries, from a position on. -/
def entriesFrom {α β : Type} (enabled : α → Bool) (check : FieldPath → α → Validation β)
    (field : FieldPath) : Nat → List α → Validation (List β)
  | _, [] => pure []
  | i, x :: xs =>
    if enabled x then do
      let y ← check (field.item i) x
      let ys ← entriesFrom enabled check field (i + 1) xs
      return y :: ys
    else do
      Traced.tell (.skipped (field.item i))
      entriesFrom enabled check field (i + 1) xs

/-- The enabled ones of a list of entries. A list that is not given is empty. -/
def entries {α β : Type} (enabled : α → Bool) (check : FieldPath → α → Validation β)
    (field : FieldPath) (xs : Option (List α)) : Validation (List β) :=
  entriesFrom enabled check field 0 (xs.getD [])

/-- An entry needs a text and a link to a page. -/
def entry (field : FieldPath) (e : Draft.Entry) : Validation Entry := do
  let text ← label (field.key "text") e.text
  let link ← goodLink pageLinkFlaw? (field.key "link") e.link
  return ⟨text, link⟩

/-- A group needs a text and items, of which there may be none. -/
def group (field : FieldPath) (g : Draft.Group) : Validation Group := do
  let text ← label (field.key "text") g.text
  let items ← present (field.key "items") g.items
  let items ← entries (·.enabled) entry (field.key "items") (some items)
  return ⟨text, items, g.collapsed⟩

/-- A social link needs a known icon and a URL. -/
def socialLink (field : FieldPath) (s : Draft.SocialLink) : Validation SocialLink := do
  let word ← present (field.key "icon") s.icon
  match Icon.ofName? word with
  | none => throw (.unknownIcon (field.key "icon") word)
  | some icon =>
    let link ← goodLink socialLinkFlaw? (field.key "link") s.link
    return ⟨icon, link⟩

/-- The styles that a format does not choose are those of the default. -/
def labelFormat (f : Option Draft.LabelFormat) : LabelFormat :=
  ⟨(f.bind (·.date)).getD LabelFormat.default.date,
    (f.bind (·.time)).getD LabelFormat.default.time⟩

/-- The label needs a text. -/
def lastUpdated (field : FieldPath) (l : Draft.LastUpdated) : Validation LastUpdated := do
  let text ← label (field.key "text") l.text
  return ⟨text, labelFormat l.format⟩

/-- A theme needs nothing. -/
def theme (field : FieldPath) (t : Draft.Theme) : Validation Theme := do
  let nav ← entries (·.enabled) entry (field.key "nav") t.nav
  let sidebar ← entries (·.enabled) group (field.key "sidebar") t.sidebar
  let socialLinks ← entries (·.enabled) socialLink (field.key "socialLinks") t.socialLinks
  match t.lastUpdated with
  | none => return ⟨nav, sidebar, socialLinks, none⟩
  | some l => return ⟨nav, sidebar, socialLinks, some (← lastUpdated (field.key "lastUpdated") l)⟩

/-- The theme of a draft that has none. -/
def noTheme : Draft.Theme := ⟨none, none, none, none⟩

/-- The site that a draft describes. It needs a title and a base path. -/
def site (d : Draft.Site) : Validation Site := do
  let title ← label (.top "title") d.title
  let basePath ← present (.top "basePath") d.basePath
  if !isBasePath basePath then throw (.invalidBasePath basePath)
  let theme ← theme (.top "theme") (d.theme.getD noTheme)
  return ⟨title, d.description.getD "", basePath, theme⟩

end Validation

end SiteManifest
