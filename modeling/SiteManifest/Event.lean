import SiteManifest.FieldPath
import SiteManifest.FilePath

/-!
# Events

What is told while a configuration is looked for, read and validated.
-/

namespace SiteManifest

/-- Something worth telling. -/
inductive Event where
  /-- An entry that is switched off was left out. -/
  | skipped (field : FieldPath)
  /-- A text held several definitions, of which the last one counts. -/
  | severalDefinitions (count : Nat)
  /-- A file was found by looking for it. -/
  | discovered (path : FilePath)
  /-- A file was read and is valid. -/
  | loaded (path : FilePath) (nav groups socialLinks : Nat)
  deriving DecidableEq, Repr

end SiteManifest
