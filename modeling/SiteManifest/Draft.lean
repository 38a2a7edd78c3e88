import SiteManifest.Shape.Record
import SiteManifest.Site.Style

/-!
# Drafts

A configuration as it is written: every field may be absent, and entries may be switched off. A
draft has the right shape but need not make sense; validation turns it into a site. The decoder of
drafts says which data has the right shape.
-/

namespace SiteManifest.Draft

open Shape

/-- An entry of the navigation bar or of a sidebar group. -/
structure Entry where
  text : Option String
  link : Option String
  enabled : Bool
  deriving DecidableEq, Repr

/-- A group of the sidebar. -/
structure Group where
  text : Option String
  items : Option (List Entry)
  collapsed : Option Bool
  enabled : Bool
  deriving DecidableEq, Repr

/-- A link with an icon. -/
structure SocialLink where
  icon : Option String
  link : Option String
  enabled : Bool
  deriving DecidableEq, Repr

/-- The styles of the label that shows when a page was changed. -/
structure LabelFormat where
  date : Option Style
  time : Option Style
  deriving DecidableEq, Repr

/-- The label that shows when a page was changed. -/
structure LastUpdated where
  text : Option String
  format : Option LabelFormat
  deriving DecidableEq, Repr

/-- What surrounds the pages. -/
structure Theme where
  nav : Option (List Entry)
  sidebar : Option (List Group)
  socialLinks : Option (List SocialLink)
  lastUpdated : Option LastUpdated
  deriving DecidableEq, Repr

/-- A whole configuration. -/
structure Site where
  title : Option String
  description : Option String
  basePath : Option String
  theme : Option Theme
  deriving DecidableEq, Repr

/-! ## Records -/

/-- Entries are enabled unless they say otherwise. -/
def Entry.record : Record Entry where
  name := "RawLinkItem"
  blank := ⟨none, none, true⟩
  fields := [
    .ofOption "text" .text fun v x => { x with text := v },
    .ofOption "link" .text fun v x => { x with link := v },
    .atEnd "enabled" .flag fun v x => { x with enabled := v }]

@[inherit_doc Entry.record]
def Group.record : Record Group where
  name := "RawSidebarGroup"
  blank := ⟨none, none, none, true⟩
  fields := [
    .ofOption "text" .text fun v x => { x with text := v },
    .ofOption "items" (.list Entry.record.decoder) fun v x => { x with items := v },
    .ofOption "collapsed" .flag fun v x => { x with collapsed := v },
    .atEnd "enabled" .flag fun v x => { x with enabled := v }]

@[inherit_doc Entry.record]
def SocialLink.record : Record SocialLink where
  name := "RawSocialLink"
  blank := ⟨none, none, true⟩
  fields := [
    .ofOption "icon" .text fun v x => { x with icon := v },
    .ofOption "link" .text fun v x => { x with link := v },
    .atEnd "enabled" .flag fun v x => { x with enabled := v }]

/-- The styles are named by their words. -/
def LabelFormat.record : Record LabelFormat where
  name := "RawFormatOptions"
  blank := ⟨none, none⟩
  fields := [
    .ofOption "dateStyle" (.oneOf Style.words) fun v x => { x with date := v },
    .ofOption "timeStyle" (.oneOf Style.words) fun v x => { x with time := v }]

/-- The text and the format of the label. -/
def LastUpdated.record : Record LastUpdated where
  name := "RawLastUpdated"
  blank := ⟨none, none⟩
  fields := [
    .ofOption "text" .text fun v x => { x with text := v },
    .ofOption "formatOptions" LabelFormat.record.decoder fun v x => { x with format := v }]

/-- The three lists, and the label. -/
def Theme.record : Record Theme where
  name := "RawThemeConfig"
  blank := ⟨none, none, none, none⟩
  fields := [
    .ofOption "nav" (.list Entry.record.decoder) fun v x => { x with nav := v },
    .ofOption "sidebar" (.list Group.record.decoder) fun v x => { x with sidebar := v },
    .ofOption "socialLinks" (.list SocialLink.record.decoder) fun v x => { x with socialLinks := v },
    .ofOption "lastUpdated" LastUpdated.record.decoder fun v x => { x with lastUpdated := v }]

/-- The texts of a site, and its theme. -/
def Site.record : Record Site where
  name := "RawSiteConfig"
  blank := ⟨none, none, none, none⟩
  fields := [
    .ofOption "title" .text fun v x => { x with title := v },
    .ofOption "description" .text fun v x => { x with description := v },
    .ofOption "basePath" .text fun v x => { x with basePath := v },
    .ofOption "theme" Theme.record.decoder fun v x => { x with theme := v }]

/-- The draft that a JSON value holds. -/
def Site.ofJson (v : Json) : Except Mismatch Site :=
  Site.record.decoder.ofJson v

/-- The draft that a JSON text holds, read without building the value first. -/
def Site.ofText (text : String) : Except Json.Fault Site :=
  let cs := text.toList
  Json.Read.whole (Site.record.decoder.ofText (cs.length + 1)) cs

end SiteManifest.Draft
