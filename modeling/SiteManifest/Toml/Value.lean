import SiteManifest.Toml.Key
import SiteManifest.Toml.Table

/-!
# Values of TOML

Values may be lists and tables between brackets, which are nested to a limited depth. A number of steps
bounds the entries of one of them; the length of the text is enough.
-/

namespace SiteManifest.Toml

/-- A reader of a part of a text. -/
abbrev Reader (α : Type) := List Char → Option (α × List Char)

/-- The text after a comment, if there is one. -/
def dropComment : List Char → List Char
  | '#' :: rest => rest.dropWhile isTextChar
  | cs => cs

/-- The text after blanks, line breaks and comments. -/
def skipLines : Nat → List Char → List Char
  | 0, cs => cs
  | steps + 1, cs =>
    let cs := dropComment (cs.dropWhile isSpace)
    match lineBreak? cs with
    | some rest => skipLines steps rest
    | none => cs

/-- Reads the items of a list after its bracket. -/
def items (value : Reader Json) : Nat → Reader (List Json)
  | 0, _ => none
  | steps + 1, cs =>
    match skipLines cs.length cs with
    | ']' :: rest => some ([], rest)
    | cs => do
      let (v, rest) ← value cs
      match skipLines rest.length rest with
      | ']' :: rest => return ([v], rest)
      | ',' :: rest =>
        let (vs, rest) ← items value steps rest
        return (v :: vs, rest)
      | _ => none

/-- Reads a key, an equals sign and a value. -/
def keyValue (value : Reader Json) : Reader ((List String × String) × Json) := fun cs => do
  let (key, rest) ← readKey maxParts cs
  match rest with
  | '=' :: rest =>
    let (v, rest) ← value (rest.dropWhile isSpace)
    return ((key, v), rest)
  | _ => none

/-- Reads the entries of a table after its brace. -/
def fields (value : Reader Json) : Nat → Entries → Reader Entries
  | 0, _, _ => none
  | steps + 1, entries, cs =>
    match skipLines cs.length cs with
    | '\x7d' :: rest => some (entries, rest)
    | cs => do
      let (((path, key), v), rest) ← keyValue value cs
      let entries ← Entries.addAt path key v .header entries
      match skipLines rest.length rest with
      | '\x7d' :: rest => return (entries, rest)
      | ',' :: rest => fields value steps entries rest
      | _ => none

/-- How deep lists and tables may be nested. -/
def maxDepth : Nat := 80

/-- Reads a value in which lists and tables are nested at most to a depth. -/
def value (steps : Nat) : Nat → Reader Json
  | 0, cs =>
    match cs with
    | '[' :: _ => none
    | '\x7b' :: _ => none
    | _ =>
      match readQuoted? cs with
      | some text => text.map fun (t, rest) => (.string (.ofList t), rest)
      | none => readScalar cs
  | depth + 1, cs =>
    match cs with
    | '[' :: rest => (items (value steps depth) steps rest).map fun (vs, rest) => (.array vs, rest)
    | '\x7b' :: rest =>
      (fields (value steps depth) steps [] rest).map fun (es, rest) => (.object (members es), rest)
    | _ => value steps 0 cs

end SiteManifest.Toml
