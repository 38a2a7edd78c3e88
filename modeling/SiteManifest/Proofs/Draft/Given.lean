import SiteManifest.Proofs.Draft.Text
import SiteManifest.Proofs.Shape.Schema

/-!
# What a value gives a draft

The schemas of the parts of a draft, and what each part holds when it is read from a value: under every
key what the value gives there, in whichever way the value is written.
-/

namespace SiteManifest.Draft

open Shape

/-! ## Schemas -/

/-- The parts of an entry. -/
def Entry.schema : Schema := .record [("text", .leaf), ("link", .leaf), ("enabled", .leaf)]

/-- The parts of a group. -/
def Group.schema : Schema :=
  .record [("text", .leaf), ("items", .list Entry.schema), ("collapsed", .leaf), ("enabled", .leaf)]

/-- The parts of a social link. -/
def SocialLink.schema : Schema := .record [("icon", .leaf), ("link", .leaf), ("enabled", .leaf)]

/-- The parts of a format of the label. -/
def LabelFormat.schema : Schema := .record [("dateStyle", .leaf), ("timeStyle", .leaf)]

/-- The parts of the label. -/
def LastUpdated.schema : Schema :=
  .record [("text", .leaf), ("formatOptions", LabelFormat.schema)]

/-- The parts of a theme. -/
def Theme.schema : Schema :=
  .record [("nav", .list Entry.schema), ("sidebar", .list Group.schema),
    ("socialLinks", .list SocialLink.schema), ("lastUpdated", LastUpdated.schema)]

/-- The parts of a whole configuration. -/
def Site.schema : Schema :=
  .record [("title", .leaf), ("description", .leaf), ("basePath", .leaf), ("theme", Theme.schema)]

theorem Entry.schema_plain : Entry.schema.Plain :=
  .record (by decide) (by simp [Schema.Plain.leaf])

theorem Group.schema_plain : Group.schema.Plain :=
  .record (by decide) (by simp [Schema.Plain.leaf, Entry.schema_plain.list])

theorem SocialLink.schema_plain : SocialLink.schema.Plain :=
  .record (by decide) (by simp [Schema.Plain.leaf])

theorem LabelFormat.schema_plain : LabelFormat.schema.Plain :=
  .record (by decide) (by simp [Schema.Plain.leaf])

theorem LastUpdated.schema_plain : LastUpdated.schema.Plain :=
  .record (by decide) (by simp [Schema.Plain.leaf, LabelFormat.schema_plain])

theorem Theme.schema_plain : Theme.schema.Plain :=
  .record (by decide) (by
    simp [Entry.schema_plain.list, Group.schema_plain.list, SocialLink.schema_plain.list,
      LastUpdated.schema_plain])

/-- The keys of a configuration can be told apart in the text of a path. -/
theorem Site.schema_plain : Site.schema.Plain :=
  .record (by decide) (by simp [Schema.Plain.leaf, Theme.schema_plain])

/-! ## Parts -/

variable {v : Json}

/-- A part of a draft holds what a value gives it. -/
structure Entry.GivenBy (v : Json) (e : Entry) : Prop where
  shape : v.IsRecord
  text : Decoder.text.optional.Gives none (v.given Entry.schema.keys "text") e.text
  link : Decoder.text.optional.Gives none (v.given Entry.schema.keys "link") e.link
  enabled : Decoder.flag.Gives true (v.given Entry.schema.keys "enabled") e.enabled

theorem Entry.givenBy_of_ofJson {e : Entry} (h : Entry.record.decoder.ofJson v = .ok e) :
    e.GivenBy v := by
  obtain ⟨hv, hstored⟩ := Entry.record_orderly.stored_of_ofJson h
  obtain ⟨text, htext, hstored⟩ := hstored.exists_gives rfl rfl
  obtain ⟨link, hlink, hstored⟩ := hstored.exists_gives rfl rfl
  obtain ⟨enabled, henabled, ⟨⟩⟩ := hstored.exists_gives rfl rfl
  exact ⟨hv, htext, hlink, henabled⟩

@[inherit_doc Entry.GivenBy]
structure Group.GivenBy (v : Json) (g : Group) : Prop where
  shape : v.IsRecord
  text : Decoder.text.optional.Gives none (v.given Group.schema.keys "text") g.text
  items : Entry.record.decoder.list.optional.Gives none (v.given Group.schema.keys "items") g.items
  collapsed : Decoder.flag.optional.Gives none (v.given Group.schema.keys "collapsed") g.collapsed
  enabled : Decoder.flag.Gives true (v.given Group.schema.keys "enabled") g.enabled

theorem Group.givenBy_of_ofJson {g : Group} (h : Group.record.decoder.ofJson v = .ok g) :
    g.GivenBy v := by
  obtain ⟨hv, hstored⟩ := Group.record_orderly.stored_of_ofJson h
  obtain ⟨text, htext, hstored⟩ := hstored.exists_gives rfl rfl
  obtain ⟨items, hitems, hstored⟩ := hstored.exists_gives rfl rfl
  obtain ⟨collapsed, hcollapsed, hstored⟩ := hstored.exists_gives rfl rfl
  obtain ⟨enabled, henabled, ⟨⟩⟩ := hstored.exists_gives rfl rfl
  exact ⟨hv, htext, hitems, hcollapsed, henabled⟩

@[inherit_doc Entry.GivenBy]
structure SocialLink.GivenBy (v : Json) (s : SocialLink) : Prop where
  shape : v.IsRecord
  icon : Decoder.text.optional.Gives none (v.given SocialLink.schema.keys "icon") s.icon
  link : Decoder.text.optional.Gives none (v.given SocialLink.schema.keys "link") s.link
  enabled : Decoder.flag.Gives true (v.given SocialLink.schema.keys "enabled") s.enabled

theorem SocialLink.givenBy_of_ofJson {s : SocialLink}
    (h : SocialLink.record.decoder.ofJson v = .ok s) : s.GivenBy v := by
  obtain ⟨hv, hstored⟩ := SocialLink.record_orderly.stored_of_ofJson h
  obtain ⟨icon, hicon, hstored⟩ := hstored.exists_gives rfl rfl
  obtain ⟨link, hlink, hstored⟩ := hstored.exists_gives rfl rfl
  obtain ⟨enabled, henabled, ⟨⟩⟩ := hstored.exists_gives rfl rfl
  exact ⟨hv, hicon, hlink, henabled⟩

@[inherit_doc Entry.GivenBy]
structure LastUpdated.GivenBy (v : Json) (l : LastUpdated) : Prop where
  shape : v.IsRecord
  text : Decoder.text.optional.Gives none (v.given LastUpdated.schema.keys "text") l.text
  format : LabelFormat.record.decoder.optional.Gives none
    (v.given LastUpdated.schema.keys "formatOptions") l.format

theorem LastUpdated.givenBy_of_ofJson {l : LastUpdated}
    (h : LastUpdated.record.decoder.ofJson v = .ok l) : l.GivenBy v := by
  obtain ⟨hv, hstored⟩ := LastUpdated.record_orderly.stored_of_ofJson h
  obtain ⟨text, htext, hstored⟩ := hstored.exists_gives rfl rfl
  obtain ⟨format, hformat, ⟨⟩⟩ := hstored.exists_gives rfl rfl
  exact ⟨hv, htext, hformat⟩

@[inherit_doc Entry.GivenBy]
structure Theme.GivenBy (v : Json) (t : Theme) : Prop where
  shape : v.IsRecord
  nav : Entry.record.decoder.list.optional.Gives none (v.given Theme.schema.keys "nav") t.nav
  sidebar : Group.record.decoder.list.optional.Gives none
    (v.given Theme.schema.keys "sidebar") t.sidebar
  socialLinks : SocialLink.record.decoder.list.optional.Gives none
    (v.given Theme.schema.keys "socialLinks") t.socialLinks
  lastUpdated : LastUpdated.record.decoder.optional.Gives none
    (v.given Theme.schema.keys "lastUpdated") t.lastUpdated

theorem Theme.givenBy_of_ofJson {t : Theme} (h : Theme.record.decoder.ofJson v = .ok t) :
    t.GivenBy v := by
  obtain ⟨hv, hstored⟩ := Theme.record_orderly.stored_of_ofJson h
  obtain ⟨nav, hnav, hstored⟩ := hstored.exists_gives rfl rfl
  obtain ⟨sidebar, hsidebar, hstored⟩ := hstored.exists_gives rfl rfl
  obtain ⟨links, hlinks, hstored⟩ := hstored.exists_gives rfl rfl
  obtain ⟨last, hlast, ⟨⟩⟩ := hstored.exists_gives rfl rfl
  exact ⟨hv, hnav, hsidebar, hlinks, hlast⟩

@[inherit_doc Entry.GivenBy]
structure Site.GivenBy (v : Json) (d : Site) : Prop where
  shape : v.IsRecord
  title : Decoder.text.optional.Gives none (v.given Site.schema.keys "title") d.title
  description : Decoder.text.optional.Gives none
    (v.given Site.schema.keys "description") d.description
  basePath : Decoder.text.optional.Gives none (v.given Site.schema.keys "basePath") d.basePath
  theme : Theme.record.decoder.optional.Gives none (v.given Site.schema.keys "theme") d.theme

theorem Site.givenBy_of_ofJson {d : Site} (h : Site.ofJson v = .ok d) : d.GivenBy v := by
  obtain ⟨hv, hstored⟩ := Site.record_orderly.stored_of_ofJson h
  obtain ⟨title, htitle, hstored⟩ := hstored.exists_gives rfl rfl
  obtain ⟨description, hdescription, hstored⟩ := hstored.exists_gives rfl rfl
  obtain ⟨basePath, hbasePath, hstored⟩ := hstored.exists_gives rfl rfl
  obtain ⟨theme, htheme, ⟨⟩⟩ := hstored.exists_gives rfl rfl
  exact ⟨hv, htitle, hdescription, hbasePath, htheme⟩

end SiteManifest.Draft
