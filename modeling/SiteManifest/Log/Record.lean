import SiteManifest.Decimal.Notation
import SiteManifest.Event

/-!
# Log records

What is written down about an event: how important it is, where it comes from, its message and its
details.
-/

namespace SiteManifest

/-- How important an event is. -/
inductive Level where
  | error
  | warn
  | info
  | debug
  | trace
  deriving DecidableEq, Repr

namespace Level

/-- The number of a level. The most important one has the least. -/
def number : Level → Nat
  | .error => 1
  | .warn => 2
  | .info => 3
  | .debug => 4
  | .trace => 5

/-- The word for a level, in five columns. -/
def label : Level → String
  | .error => "ERROR"
  | .warn => " WARN"
  | .info => " INFO"
  | .debug => "DEBUG"
  | .trace => "TRACE"

end Level

namespace Event

/-- How important an event is. -/
def level : Event → Level
  | .skipped _ => .debug
  | .severalDefinitions _ => .debug
  | .discovered _ => .debug
  | .loaded .. => .info

/-- Where an event comes from. -/
def origin : Event → String
  | .skipped _ => "docsite_config::raw"
  | .severalDefinitions _ => "docsite_config::source"
  | .discovered _ => "docsite_config::source"
  | .loaded .. => "docsite_config::source"

/-- What is said about an event. -/
def message : Event → String
  | .skipped _ => "Skipping disabled entry"
  | .severalDefinitions _ => "Multiple configuration definitions, using the last one"
  | .discovered _ => "Discovered configuration file"
  | .loaded .. => "Loaded site configuration"

/-- The details of an event, with their names. -/
def details : Event → List (String × String)
  | .skipped field => [("field", field.text)]
  | .severalDefinitions count => [("definitions", Decimal.natText count)]
  | .discovered path => [("path", path.text)]
  | .loaded path nav groups socialLinks =>
    [("path", path.text), ("nav", Decimal.natText nav), ("sidebar_groups", Decimal.natText groups),
      ("social_links", Decimal.natText socialLinks)]

end Event

end SiteManifest
