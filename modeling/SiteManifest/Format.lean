import SiteManifest.FilePath
import SiteManifest.Json.Reader
import SiteManifest.LoadError
import SiteManifest.Toml.Document
import SiteManifest.Yaml.Document

/-!
# Formats

The formats that a configuration may be written in. The ending of a file tells its format. A text holds
a list of definitions, in a format that has documents; otherwise it holds one.
-/

namespace SiteManifest

/-- A format of a configuration. -/
inductive Format where
  | toml
  | yaml
  | json
  deriving DecidableEq, Repr

namespace Format

/-- The word for a format. -/
def name : Format → String
  | .toml => "toml"
  | .yaml => "yaml"
  | .json => "json"

/-- The endings of files, and what they tell. -/
def endings : List (String × Format) :=
  [("toml", .toml), ("yaml", .yaml), ("yml", .yaml), ("json", .json)]

/-- The format of a file. -/
def ofPath? (p : FilePath) : Option Format := p.extension?.bind fun ending => endings.lookup ending

/-- The definitions that a text holds. -/
def definitions (format : Format) (text : String) : Except LoadError (List Json) :=
  match format with
  | .toml =>
    match Toml.ofText? text with
    | some v => .ok [v]
    | none => .error .badToml
  | .yaml =>
    match Yaml.ofText? text with
    | some vs => .ok (vs.filter fun v => !v.isNull)
    | none => .error .badYaml
  | .json =>
    match Json.ofText text with
    | .ok v => .ok [v]
    | .error fault => .error (.badJson (fault.report text))

end Format

end SiteManifest
