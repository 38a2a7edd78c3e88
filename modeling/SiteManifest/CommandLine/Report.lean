import SiteManifest.CommandLine.Paint
import SiteManifest.FilePath
import SiteManifest.Site.Label

/-!
# Reports

What is told about a site that is valid: its title, a summary, and what is allowed but hardly meant.
-/

namespace SiteManifest

/-- The number of items of all groups together. -/
def Theme.itemCount (t : Theme) : Nat := (t.sidebar.map (·.items.length)).foldl (· + ·) 0

namespace Report

/-- What is said about the label of changed pages, with a sample. -/
def labelLine (now : Calendar.Moment) : Option LastUpdated → String
  | none => "Last updated: disabled"
  | some l => "Last updated: enabled (e.g. \"" ++ l.label now ++ "\")"

/-- The summary of a site. -/
def summary (now : Calendar.Moment) (s : Site) : List String :=
  let t := s.theme
  let description := if s.description = "" then [] else ["Description: " ++ s.description]
  ["Base path: " ++ s.basePath] ++ description
    ++ ["Nav entries: " ++ Decimal.natText t.nav.length,
      "Sidebar: " ++ Decimal.natText t.sidebar.length ++ " groups, "
        ++ Decimal.natText t.itemCount ++ " items",
      "Social links: " ++ Decimal.natText t.socialLinks.length,
      labelLine now t.lastUpdated]

/-- Something that is allowed but hardly meant. -/
inductive Warning where
  | noNavigation
  | emptyGroup (text : String)
  deriving DecidableEq, Repr

/-- The words for a warning. -/
def Warning.message : Warning → String
  | .noNavigation => "No navigation entries configured"
  | .emptyGroup text => "Sidebar group \"" ++ text ++ "\" has no items"

/-- What is hardly meant in a site. -/
def warnings (s : Site) : List Warning :=
  (if s.theme.nav.isEmpty then [.noNavigation] else [])
    ++ (s.theme.sidebar.filter (·.items.isEmpty)).map fun g => .emptyGroup g.text

/-- The lines of the report about a site that a file describes. -/
def lines (colours : Bool) (now : Calendar.Moment) (path : FilePath) (s : Site) : List String :=
  [Paint.apply colours [.cyan, .bold] s.title]
    ++ summary now s
    ++ (warnings s).map (fun w => Paint.apply colours [.yellow] w.message)
    ++ [Paint.apply colours [.green] ("Configuration is valid: " ++ path.text)]

end Report

end SiteManifest
