import SiteManifest.Site.Basic
import SiteManifest.Url.Absolute

/-!
# Navigation

How the links of a site are followed and shown: where a link leads under the base path, which entries
are highlighted on a page, and which group of the sidebar a page belongs to.
-/

namespace SiteManifest

/-- A path without the slashes at its end. -/
def trimSlashes (path : String) : String :=
  .ofList (path.toList.reverse.dropWhile (· == '/')).reverse

/-- The address of a link: a path is taken to lie under the base path, and a URL stays as it is. -/
def Site.withBase (s : Site) (link : String) : String :=
  if Url.isAbsolute link then link
  else if link.toList.head? = some '/' then trimSlashes s.basePath ++ link
  else trimSlashes s.basePath ++ "/" ++ link

/-- Whether an entry is highlighted on a page: on its own page and on all pages below. The link of the
whole site is highlighted on the first page only. -/
def Entry.isActive (e : Entry) (path : String) : Bool :=
  if e.link = "/" then path == "/"
  else
    match e.link.toList.isPrefixOf? path.toList with
    | none => false
    | some rest =>
      rest.isEmpty || e.link.toList.getLast? == some '/' || rest.head? == some '/'

/-- The first group of the sidebar with an item that links to a page. -/
def Theme.groupFor (t : Theme) (path : String) : Option Group :=
  t.sidebar.find? fun g => g.items.any (·.link == path)

end SiteManifest
