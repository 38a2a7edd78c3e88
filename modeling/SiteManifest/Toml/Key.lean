import SiteManifest.Toml.Quoted

/-!
# Keys of TOML

A key is a sequence of parts between dots. A part is a word of letters, digits, underscores and hyphens,
or a quoted text on one line.
-/

namespace SiteManifest.Toml

/-- Whether a character may stand in a word. -/
def isWordChar (c : Char) : Bool := c.isAlphanum || c == '_' || c == '-'

/-- Reads a part of a key. -/
def readPart (cs : List Char) : Option (String × List Char) :=
  match cs with
  | '"' :: rest => (basicText rest).map fun (t, rest) => (.ofList t, rest)
  | '\x27' :: rest => (literalText rest).map fun (t, rest) => (.ofList t, rest)
  | _ =>
    let (word, rest) := cs.span isWordChar
    if word.isEmpty then none else some (.ofList word, rest)

/-- Reads a key of at most a number of parts: the parts before the last one, and the last one. -/
def readKey : Nat → List Char → Option ((List String × String) × List Char)
  | 0, _ => none
  | parts + 1, cs => do
    let (first, rest) ← readPart cs
    match rest.dropWhile isSpace with
    | '.' :: rest =>
      let ((path, last), rest) ← readKey parts (rest.dropWhile isSpace)
      return ((first :: path, last), rest)
    | rest => return (([], first), rest)

/-- How many parts a key may have. -/
def maxParts : Nat := 80

end SiteManifest.Toml
