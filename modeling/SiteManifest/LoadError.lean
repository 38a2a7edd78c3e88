import SiteManifest.FilePath
import SiteManifest.Json.Fault
import SiteManifest.Violation

/-!
# Failures

Why a configuration cannot be had, from the file that is not there to the rule that is broken, and what
is said about it.
-/

namespace SiteManifest

/-- Why a file that is there cannot be read. -/
inductive ReadFault where
  | isDirectory
  | isLocked
  | notText
  deriving DecidableEq, Repr

/-- The words for a fault of a file. -/
def ReadFault.message : ReadFault → String
  | .isDirectory => "Is a directory (os error 21)"
  | .isLocked => "Permission denied (os error 13)"
  | .notText => "stream did not contain valid UTF-8"

/-- Why a configuration cannot be had. -/
inductive LoadError where
  /-- A rule is broken. -/
  | invalid (violation : Violation)
  /-- The data has another shape. -/
  | malformed (mismatch : Shape.Mismatch)
  /-- A text holds no definition. -/
  | noDefinition
  | fileNotFound (path : FilePath)
  | unsupportedFormat (path : FilePath)
  | unreadable (fault : ReadFault)
  /-- A text is no TOML. Where the fault is, and what it is, is not told. -/
  | badToml
  /-- A text is no stream of YAML documents, and again nothing more is told. -/
  | badYaml
  | badJson (report : Json.Report)
  /-- A variable that a field refers to is not set. -/
  | unsetVariable (field : FieldPath) (name : String)
  deriving DecidableEq, Repr

namespace LoadError

/-- The place in the configuration that an error is about. -/
def field? : LoadError → Option FieldPath
  | .invalid v => some v.field
  | .unsetVariable field _ => some field
  | _ => none

/-- The report of an error. -/
def message : LoadError → String
  | .invalid v => v.message
  | .malformed m => "Malformed configuration: " ++ m.message
  | .noDefinition => "Malformed configuration: no configuration definition found"
  | .fileNotFound path => "Configuration file not found: " ++ path.text
  | .unsupportedFormat path => "Unsupported configuration format: " ++ path.text
  | .unreadable fault => "I/O error: " ++ fault.message
  | .badToml => "TOML parse error"
  | .badYaml => "YAML parse error"
  | .badJson report => "JSON parse error: " ++ report.message
  | .unsetVariable field name =>
    "Environment variable error in " ++ field.text ++ ": $\x7b" ++ name ++ "\x7d not set"

end LoadError

end SiteManifest
