/-!
# Social icons

The icons that a social link may carry.
-/

namespace SiteManifest

/-- An icon of a social link. -/
inductive Icon where
  | discord
  | facebook
  | github
  | instagram
  | linkedin
  | mastodon
  | npm
  | slack
  | twitter
  | x
  | youtube
  deriving DecidableEq, Repr

namespace Icon

/-- The word for an icon. -/
def name : Icon → String
  | .discord => "discord"
  | .facebook => "facebook"
  | .github => "github"
  | .instagram => "instagram"
  | .linkedin => "linkedin"
  | .mastodon => "mastodon"
  | .npm => "npm"
  | .slack => "slack"
  | .twitter => "twitter"
  | .x => "x"
  | .youtube => "youtube"

/-- All icons, in alphabetical order. -/
def all : List Icon :=
  [.discord, .facebook, .github, .instagram, .linkedin, .mastodon, .npm, .slack, .twitter, .x,
    .youtube]

/-- The icon that a word names. -/
def ofName? (word : String) : Option Icon := all.find? (·.name == word)

theorem mem_all (i : Icon) : i ∈ all := by cases i <;> decide

/-- What a word that names no icon is told. -/
def unknownMessage (word : String) : String := "unknown icon: " ++ word

end Icon

end SiteManifest
