import SiteManifest.Yaml.Property

/-!
# Tokens of YAML

The pieces that a YAML text consists of: its signs, names and scalars, and the blocks that begin and end
with its indentation.
-/

namespace SiteManifest.Yaml

/-- A piece of a text. -/
inductive Token where
  | directive (content : Directive)
  | documentStart
  | documentEnd
  | blockSequenceStart
  | blockMappingStart
  | blockEnd
  | flowSequenceStart
  | flowSequenceEnd
  | flowMappingStart
  | flowMappingEnd
  | blockEntry
  | flowEntry
  | key
  | value
  | alias (name : String)
  | anchor (name : String)
  | tag (name : RawTag)
  | scalar (text : String) (plain : Bool)
  /-- The text is not YAML from here on. Nothing follows. -/
  | fault
  deriving DecidableEq, Repr

end SiteManifest.Yaml
