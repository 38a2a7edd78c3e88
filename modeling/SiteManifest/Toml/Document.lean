import SiteManifest.Toml.Value

/-!
# Documents of TOML

A document is a sequence of lines: headers, which say which table the lines after them fill, and keys
with values.
-/

namespace SiteManifest.Toml

/-- A document that is being read: the whole table, and the path of the header that was read last. -/
structure Draft where
  root : Entries
  header : List String

/-- Makes a change in the whole table. -/
def Draft.change (d : Draft) (path : List String) (change : Entries.Change) : Option Draft :=
  (Entries.changeAt false change path .header d.root).map fun root => { d with root }

/-- The end of a line: blanks, a comment, and a line break unless the text ends. -/
def endLine? (cs : List Char) : Option (List Char) :=
  match dropComment (cs.dropWhile isSpace) with
  | [] => some []
  | cs => lineBreak? cs

/-- Reads a header after its bracket: the path of a table, and whether it is an element of a list. -/
def readHeader (cs : List Char) : Option ((Bool × List String × String) × List Char) :=
  match cs with
  | '[' :: rest => do
    let ((path, key), rest) ← readKey maxParts (rest.dropWhile isSpace)
    match rest with
    | ']' :: ']' :: rest => return ((true, path, key), rest)
    | _ => none
  | _ => do
    let ((path, key), rest) ← readKey maxParts (cs.dropWhile isSpace)
    match rest with
    | ']' :: rest => return ((false, path, key), rest)
    | _ => none

/-- Reads what a line holds, before its end. -/
def readLine (d : Draft) (cs : List Char) : Option (Draft × List Char) :=
  match cs with
  | [] => some (d, [])
  | '[' :: rest => do
    let ((element, path, key), rest) ← readHeader rest
    let d ← d.change path (if element then Entries.openElement key else Entries.openTable key)
    return ({ d with header := path ++ [key] }, rest)
  | c :: _ =>
    if c == '#' || c == '\n' || c == '\r' then some (d, cs)
    else do
      let (((path, key), v), rest) ← keyValue (value cs.length maxDepth) cs
      let d ← d.change d.header (Entries.addAt path key v)
      return (d, rest)

/-- Reads lines, at most a number of them. -/
def readLines : Nat → Draft → List Char → Option Draft
  | 0, d, cs => if cs.isEmpty then some d else none
  | lines + 1, d, cs => do
    let (d, rest) ← readLine d (cs.dropWhile isSpace)
    let rest ← endLine? rest
    if rest.isEmpty then return d else readLines lines d rest

/-- The text without the mark of its encoding. -/
def dropMark : List Char → List Char
  | '\ufeff' :: rest => rest
  | cs => cs

/-- The value that a text holds. -/
def ofText? (text : String) : Option Json :=
  let cs := dropMark text.toList
  (readLines (cs.length + 1) ⟨[], []⟩ cs).map fun d => .object (members d.root)

end SiteManifest.Toml
