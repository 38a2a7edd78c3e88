import SiteManifest.Json.Basic
import SiteManifest.Json.Printer
import SiteManifest.Text.Quoted

/-!
# Values of another shape than wanted

What a reader of typed data reports when a value does not have the shape that is wanted at its
place: what was found there and what was expected.
-/

namespace SiteManifest.Shape

/-- What was found, to the detail that a report gives. -/
inductive Found where
  | null
  | bool (value : Bool)
  | number (value : Json.Number)
  | text (value : String)
  | list
  | object
  deriving DecidableEq, Repr

/-- What a value is, for a report. -/
def Found.ofJson : Json → Found
  | .null => .null
  | .bool b => .bool b
  | .number n => .number n
  | .string s => .text s
  | .array _ => .list
  | .object _ => .object

/-- What was expected. -/
inductive Expected where
  | text
  | flag
  | list
  | record (name : String)
  | textOrObject
  | nothing
  | variantName
  deriving DecidableEq, Repr

/-- How a value fails to have a shape. -/
inductive Mismatch where
  /-- A value of another kind. -/
  | kind (found : Found) (expected : Expected)
  /-- A list that ends before all fields of a record are given. -/
  | tooShort (length : Nat) (record : String) (fields : Nat)
  /-- A list that goes on after all fields of a record are given. -/
  | tooLong (length : Nat)
  /-- A word that is none of the known ones. -/
  | unknownWord (word : String) (known : List String)
  /-- An object that should name one of several variants, but does not have a single key. -/
  | notSingleKey
  /-- A field of a record that is given twice. -/
  | repeatedField (key : String)
  deriving DecidableEq, Repr

/-- The words for what was found. -/
def Found.describe : Found → String
  | .null => "null"
  | .bool b => "boolean \x60" ++ (if b then "true" else "false") ++ "\x60"
  | .number (.integer n) => "integer \x60" ++ .ofList (Json.intText n) ++ "\x60"
  | .number (.float x) => "floating point \x60" ++ x.text ++ "\x60"
  | .text s => "string " ++ Text.quote s
  | .list => "sequence"
  | .object => "map"

/-- The words for what was expected. -/
def Expected.describe : Expected → String
  | .text => "a string"
  | .flag => "a boolean"
  | .list => "a sequence"
  | .record name => "struct " ++ name
  | .textOrObject => "string or map"
  | .nothing => "unit"
  | .variantName => "variant identifier"

/-- A word between grave accents. -/
def ticked (word : String) : String := "\x60" ++ word ++ "\x60"

/-- The text of a report. -/
def Mismatch.message : Mismatch → String
  | .kind found expected =>
    "invalid type: " ++ found.describe ++ ", expected " ++ expected.describe
  | .tooShort length record fields =>
    "invalid length " ++ Decimal.natText length ++ ", expected struct " ++ record ++ " with "
      ++ Decimal.natText fields ++ " elements"
  | .tooLong length =>
    "invalid length " ++ Decimal.natText length ++ ", expected fewer elements in array"
  | .unknownWord word known =>
    "unknown variant " ++ ticked word ++ ", expected one of "
      ++ ", ".intercalate (known.map ticked)
  | .notSingleKey => "invalid value: map, expected map with a single key"
  | .repeatedField key => "duplicate field " ++ ticked key

end SiteManifest.Shape
