import SiteManifest.Text.Blank
import SiteManifest.Url.Absolute

/-!
# Links

What makes a link good: a link of a page must be a path in the site, and a social link must be a URL by
itself. Of several flaws the first one that is looked for is reported.
-/

namespace SiteManifest

/-- Why a link is refused. -/
inductive LinkFlaw where
  | empty
  | notRooted
  | protocolRelative
  | padded
  | notAbsolute
  deriving DecidableEq, Repr

/-- The words for a flaw. -/
def LinkFlaw.message : LinkFlaw → String
  | .empty => "cannot be empty"
  | .notRooted => "must start with '/'"
  | .protocolRelative => "must be a site path, not a protocol-relative URL"
  | .padded => "must not have surrounding whitespace"
  | .notAbsolute => "must be a well-formed absolute URL"

/-- The flaw of the link of a page, if it has one. -/
def pageLinkFlaw? (link : String) : Option LinkFlaw :=
  if Text.isBlank link then some .empty
  else if link.toList.head? ≠ some '/' then some .notRooted
  else if ['/', '/'].isPrefixOf link.toList then some .protocolRelative
  else none

/-- The flaw of a social link, if it has one. -/
def socialLinkFlaw? (link : String) : Option LinkFlaw :=
  if Text.isBlank link then some .empty
  else if Text.isPadded link then some .padded
  else if !Url.isAbsolute link then some .notAbsolute
  else none

/-- Whether a text starts and ends with a slash. -/
def isBasePath (path : String) : Bool :=
  path.toList.head? == some '/' && path.toList.getLast? == some '/'

end SiteManifest
