import SiteManifest.Expansion
import SiteManifest.FileTree
import SiteManifest.Format
import SiteManifest.Validation

/-!
# Loading

How a site is had: from a JSON value, from a text in one of the formats, from a file, or from the file
that is found by looking for it. Only what comes from a text in a format is expanded.
-/

namespace SiteManifest

/-- A way to have something, which may fail and tells what happens. -/
abbrev Loading := Traced Event LoadError

namespace Loading

/-- The site that a draft describes. -/
def ofDraft (d : Draft.Site) : Loading Site := (Validation.site d).mapError .invalid

/-- The site that a JSON value describes. -/
def ofJson (v : Json) : Loading Site :=
  match Draft.Site.ofJson v with
  | .error m => throw (.malformed m)
  | .ok d => ofDraft d

/-- The site that a JSON text describes, without expansion. -/
def ofJsonText (text : String) : Loading Site :=
  match Draft.Site.ofText text with
  | .error fault => throw (.badJson (fault.report text))
  | .ok d => ofDraft d

/-! ## Texts -/

/-- The definition that counts: the last one. -/
def effective (definitions : List Json) : Loading Json := do
  if 1 < definitions.length then Traced.tell (.severalDefinitions definitions.length)
  match definitions.getLast? with
  | none => throw .noDefinition
  | some v => return v

/-- The site that a definition describes, with its texts expanded. -/
def ofDefinition (env : Environment) (v : Json) : Loading Site :=
  match Draft.Site.ofJson v with
  | .error m => throw (.malformed m)
  | .ok d => do
    let d ← Traced.ofExcept (Expansion.site env d)
    ofDraft d

/-- The site that a text in a format describes. -/
def ofText (env : Environment) (format : Format) (text : String) : Loading Site := do
  let definitions ← Traced.ofExcept (format.definitions text)
  let v ← effective definitions
  ofDefinition env v

end Loading

/-! ## Files -/

/-- What a program sees: the files, the directory it works in, and the variables. -/
structure Surroundings where
  files : FileTree
  working : List String
  environment : Environment

namespace Surroundings

/-- Whether a path leads to something. -/
def exists? (s : Surroundings) (p : FilePath) : Bool := (s.files.open? s.working p).isSome

/-- The text of a file. -/
def read (s : Surroundings) (p : FilePath) : Except LoadError String :=
  match s.files.open? s.working p with
  | none => .error (.fileNotFound p)
  | some (.directory _) => .error (.unreadable .isDirectory)
  | some .locked => .error (.unreadable .isLocked)
  | some (.file content) =>
    match String.fromUTF8? content with
    | none => .error (.unreadable .notText)
    | some text => .ok text

/-- The working directory as a path. -/
def workingPath (s : Surroundings) : FilePath := ⟨"/" ++ "/".intercalate s.working⟩

/-- The site that a file describes. -/
def load (s : Surroundings) (p : FilePath) : Loading Site := do
  if !s.exists? p then throw (.fileNotFound p)
  match Format.ofPath? p with
  | none => throw (.unsupportedFormat p)
  | some format =>
    let text ← Traced.ofExcept (s.read p)
    let site ← Loading.ofText s.environment format text
    let theme := site.theme
    Traced.tell (.loaded p theme.nav.length theme.sidebar.length theme.socialLinks.length)
    return site

/-! ## Discovery -/

/-- The names of the files that are looked for, the preferred ones first. -/
def fileNames : List String := ["docsite.toml", "docsite.yaml", "docsite.yml", "docsite.json"]

/-- The files that are looked for from a directory on, in order. -/
def candidates (start : FilePath) : List FilePath :=
  start.ancestors.flatMap fun directory => fileNames.map directory.join

/-- The first file that is there, in a directory or one of those above. -/
def discoverFrom (s : Surroundings) (start : FilePath) : Option FilePath :=
  (candidates start).find? s.exists?

/-- The file that is found from the working directory on. From a directory that is gone, none is. -/
def discover (s : Surroundings) : Option FilePath :=
  if s.files.isDirectory s.working then s.discoverFrom s.workingPath else none

/-- The site that a file describes, or the file that is found if none is named, and that file. -/
def loadOrDiscover (s : Surroundings) (path : Option FilePath) : Loading (FilePath × Site) := do
  match path with
  | some p => return (p, ← s.load p)
  | none =>
    match s.discover with
    | none => throw (.fileNotFound ⟨"docsite.toml"⟩)
    | some p =>
      Traced.tell (.discovered p)
      return (p, ← s.load p)

end Surroundings

end SiteManifest
