import SiteManifest.Json.Basic
import SiteManifest.Site.Icon
import SiteManifest.Site.Style

/-!
# Sites

What a valid configuration says about a site: its texts, the links around its pages, and the label
that shows when a page was changed. A site is written as a JSON value; what is absent is left out.
-/

namespace SiteManifest

/-- An entry of the navigation bar or of a sidebar group. -/
structure Entry where
  text : String
  link : String
  deriving DecidableEq, Repr

/-- A group of the sidebar. -/
structure Group where
  text : String
  items : List Entry
  /-- Whether the group starts collapsed. A group without it cannot be collapsed. -/
  collapsed : Option Bool
  deriving DecidableEq, Repr

/-- A link with an icon. -/
structure SocialLink where
  icon : Icon
  link : String
  deriving DecidableEq, Repr

/-- The label that shows when a page was changed. -/
structure LastUpdated where
  text : String
  format : LabelFormat
  deriving DecidableEq, Repr

/-- What surrounds the pages. -/
structure Theme where
  nav : List Entry
  sidebar : List Group
  socialLinks : List SocialLink
  lastUpdated : Option LastUpdated
  deriving DecidableEq, Repr

/-- A site. -/
structure Site where
  title : String
  description : String
  basePath : String
  theme : Theme
  deriving DecidableEq, Repr

/-! ## Written form -/

/-- The member of an object for a part that may be absent. -/
def optionalMember {α : Type} (key : String) (write : α → Json) : Option α → List (String × Json)
  | none => []
  | some x => [(key, write x)]

@[inherit_doc Entry]
def Entry.toJson (e : Entry) : Json :=
  .object [("text", .string e.text), ("link", .string e.link)]

@[inherit_doc Group]
def Group.toJson (g : Group) : Json :=
  .object (("text", .string g.text) :: ("items", .array (g.items.map Entry.toJson))
    :: optionalMember "collapsed" .bool g.collapsed)

@[inherit_doc SocialLink]
def SocialLink.toJson (s : SocialLink) : Json :=
  .object [("icon", .string s.icon.name), ("link", .string s.link)]

@[inherit_doc LabelFormat]
def LabelFormat.toJson (f : LabelFormat) : Json :=
  .object [("dateStyle", .string f.date.name), ("timeStyle", .string f.time.name)]

@[inherit_doc LastUpdated]
def LastUpdated.toJson (l : LastUpdated) : Json :=
  .object [("text", .string l.text), ("formatOptions", l.format.toJson)]

@[inherit_doc Theme]
def Theme.toJson (t : Theme) : Json :=
  .object (("nav", .array (t.nav.map Entry.toJson))
    :: ("sidebar", .array (t.sidebar.map Group.toJson))
    :: ("socialLinks", .array (t.socialLinks.map SocialLink.toJson))
    :: optionalMember "lastUpdated" LastUpdated.toJson t.lastUpdated)

/-- A site as a JSON value. -/
def Site.toJson (s : Site) : Json :=
  .object [("title", .string s.title), ("description", .string s.description),
    ("basePath", .string s.basePath), ("theme", s.theme.toJson)]

end SiteManifest
