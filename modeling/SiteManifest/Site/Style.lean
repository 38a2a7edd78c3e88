/-!
# Styles

How much of a date or of a time of day a label shows.
-/

namespace SiteManifest

/-- How much of a date or of a time a label shows. -/
inductive Style where
  | full
  | long
  | medium
  | short
  deriving DecidableEq, Repr

namespace Style

/-- The word for a style. -/
def name : Style → String
  | .full => "full"
  | .long => "long"
  | .medium => "medium"
  | .short => "short"

/-- All styles, the most detailed first. -/
def all : List Style := [.full, .long, .medium, .short]

/-- The words for the styles, and what they mean. -/
def words : List (String × Style) := all.map fun s => (s.name, s)

theorem mem_all (s : Style) : s ∈ all := by cases s <;> decide

end Style

/-- The styles of the two parts of a label. -/
structure LabelFormat where
  date : Style
  time : Style
  deriving DecidableEq, Repr

/-- The format of a label that does not choose one. -/
def LabelFormat.default : LabelFormat := ⟨.full, .medium⟩

end SiteManifest
