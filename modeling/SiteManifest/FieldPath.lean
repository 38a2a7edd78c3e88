import SiteManifest.Decimal.Notation

/-!
# Field paths

Where a value stands in a configuration: the keys and positions that lead to it from the whole.
-/

namespace SiteManifest

/-- The way from a whole configuration to a part of it. -/
inductive FieldPath where
  | root
  | key (parent : FieldPath) (name : String)
  | item (parent : FieldPath) (index : Nat)
  deriving DecidableEq, Repr

namespace FieldPath

/-- The text of a path: keys after dots, positions between brackets. -/
def text : FieldPath → String
  | .root => ""
  | .key .root name => name
  | .key parent name => parent.text ++ "." ++ name
  | .item parent index => parent.text ++ "[" ++ Decimal.natText index ++ "]"

/-- The path of a key of the whole. -/
def top (name : String) : FieldPath := .key .root name

end FieldPath

end SiteManifest
