import SiteManifest.FieldPath
import SiteManifest.Site.Link
import SiteManifest.Text.Quoted

/-!
# Violations

What can be wrong with a draft of the right shape, and what is said about it.
-/

namespace SiteManifest

/-- A rule that a draft breaks, and where. -/
inductive Violation where
  | missing (field : FieldPath)
  | emptyText (field : FieldPath)
  | invalidLink (field : FieldPath) (link : String) (flaw : LinkFlaw)
  | unknownIcon (field : FieldPath) (icon : String)
  | invalidBasePath (path : String)
  deriving DecidableEq, Repr

namespace Violation

/-- The place of a violation. -/
def field : Violation → FieldPath
  | .missing field => field
  | .emptyText field => field
  | .invalidLink field _ _ => field
  | .unknownIcon field _ => field
  | .invalidBasePath _ => .top "basePath"

/-- The report of a violation. -/
def message : Violation → String
  | .missing field => field.text ++ " is required"
  | .emptyText field => field.text ++ " cannot be empty"
  | .invalidLink field link flaw =>
    field.text ++ " has invalid link " ++ Text.quote link ++ ": " ++ flaw.message
  | .unknownIcon field icon => field.text ++ " has unknown icon " ++ Text.quote icon
  | .invalidBasePath path =>
    "basePath " ++ Text.quote path ++ " must start and end with '/'"

end Violation

end SiteManifest
