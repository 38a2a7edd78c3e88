import SiteManifest.Yaml.Quoted

/-!
# Anchors, tags and directives

The names that may be given to a value, the names of kinds of values, and the lines that say what such
names stand for.
-/

namespace SiteManifest.Yaml

/-! ## Anchors -/

/-- Reads the name of an anchor or of an alias. -/
def anchorName (c : Cursor) : Option (String × Cursor) :=
  let name := c.rest.takeWhile isNameChar
  let after := c.skip name.length
  if name.isEmpty then none
  else if startsBlank after.rest || after.rest.head?.any ("?:,]\x7d%@\x60".toList.contains ·) then
    some (.ofList name, after)
  else none

/-! ## Tags -/

/-- A tag as it is written: the handle of a group of tags, and the rest. Without a handle, the rest is
the whole tag. -/
structure RawTag where
  handle : String
  suffix : String
  deriving DecidableEq, Repr

/-- Whether a character may stand in a tag. Some signs may only stand in a whole tag. -/
def isTagChar (whole : Bool) (c : Char) : Bool :=
  isNameChar c || ";/?:@&=+$.!~*'()%".toList.contains c || (whole && (c == ',' || c == '[' || c == ']'))

/-- How many bytes a character has whose first byte is given. -/
def sequenceLength? (byte : Nat) : Option Nat :=
  if byte < 0x80 then some 1
  else if 0xc0 ≤ byte ∧ byte < 0xe0 then some 2
  else if 0xe0 ≤ byte ∧ byte < 0xf0 then some 3
  else if 0xf0 ≤ byte ∧ byte < 0xf8 then some 4
  else none

/-- Reads a byte that is written as a percent sign and two digits. -/
def percentByte (cs : List Char) : Option (Nat × List Char) :=
  match cs with
  | '%' :: a :: b :: rest => (hexNumber? [a, b]).map fun n => (n, rest)
  | _ => none

/-- Reads the bytes of a character after its first one. -/
def percentTail : Nat → Nat → List Char → Option (Nat × List Char)
  | 0, n, cs => some (n, cs)
  | left + 1, n, cs => do
    let (byte, rest) ← percentByte cs
    if 0x80 ≤ byte ∧ byte < 0xc0 then percentTail left (64 * n + byte % 64) rest else none

/-- Reads a character that is written by its bytes. -/
def percentChar (cs : List Char) : Option (Char × List Char) := do
  let (byte, rest) ← percentByte cs
  let length ← sequenceLength? byte
  let first := if length = 1 then byte else byte % Nat.pow 2 (7 - length)
  let (n, rest) ← percentTail (length - 1) first rest
  return (.ofNat n, rest)

/-- Reads the characters of a tag, at most a number of them. -/
def tagChars (whole : Bool) : Nat → List Char → Option (List Char × List Char)
  | 0, cs => some ([], cs)
  | steps + 1, cs =>
    match cs with
    | [] => some ([], [])
    | c :: rest =>
      if !isTagChar whole c then some ([], cs)
      else if c = '%' then do
        let (x, rest) ← percentChar cs
        let (xs, rest) ← tagChars whole steps rest
        return (x :: xs, rest)
      else do
        let (xs, rest) ← tagChars whole steps rest
        return (c :: xs, rest)

/-- Reads the characters of a tag from a place on. -/
def tagText (whole : Bool) (c : Cursor) : Option (List Char × Cursor) := do
  let (text, rest) ← tagChars whole c.rest.length c.rest
  return (text, c.skip (c.rest.length - rest.length))

/-- The handle at the start of a text: names between exclamation marks. The second mark may be missing. -/
def handleText (cs : List Char) : List Char :=
  match cs with
  | '!' :: rest =>
    let name := rest.takeWhile isNameChar
    if (rest.drop name.length).head? = some '!' then '!' :: name ++ ['!'] else '!' :: name
  | _ => []

/-- Reads a tag. -/
def rawTag (flow : Bool) (c : Cursor) : Option (RawTag × Cursor) := do
  let (tag, c) ←
    if ['!', '<'].isPrefixOf c.rest then do
      let (text, c) ← tagText true (c.skip 2)
      if text.isEmpty || c.rest.head? != some '>' then none
      else some (RawTag.mk "" (.ofList text), c.skip 1)
    else do
      let handle := handleText c.rest
      let (text, c) ← tagText false (c.skip handle.length)
      if 1 < handle.length && handle.getLast? == some '!' then
        if text.isEmpty then none else some (RawTag.mk (.ofList handle) (.ofList text), c)
      else
        let suffix := handle.drop 1 ++ text
        if suffix.isEmpty then some (RawTag.mk "" "!", c)
        else some (RawTag.mk "!" (.ofList suffix), c)
  if startsBlank c.rest || (flow && c.rest.head? == some ',') then return (tag, c) else none

/-! ## Directives -/

/-- What a directive says. -/
inductive Directive where
  | version (major minor : Nat)
  /-- Tags with a handle start with a text. -/
  | tag (handle start : String)
  deriving DecidableEq, Repr

/-- Reads a number of at most nine digits. -/
def versionNumber (c : Cursor) : Option (Nat × Cursor) :=
  let ds := c.rest.takeWhile Char.isDigit
  if ds.isEmpty || 9 < ds.length then none
  else some (ds.foldl (fun n d => 10 * n + (d.toNat - 48)) 0, c.skip ds.length)

/-- Reads a version. -/
def version (c : Cursor) : Option (Directive × Cursor) := do
  let (major, c) ← versionNumber (c.skipWhile isBlank)
  if c.rest.head? != some '.' then none
  let (minor, c) ← versionNumber (c.skip 1)
  return (.version major minor, c)

/-- Reads a handle, and the text that it stands for. -/
def tagDirective (c : Cursor) : Option (Directive × Cursor) := do
  let c := c.skipWhile isBlank
  let handle := handleText c.rest
  if handle.getLast? != some '!' then none
  let c := c.skip handle.length
  if !c.rest.head?.any isBlank then none
  let (start, c) ← tagText true (c.skipWhile isBlank)
  if start.isEmpty || !startsBlank c.rest then none
  return (.tag (.ofList handle) (.ofList start), c)

/-- Reads a directive after its percent sign, and the rest of its line. -/
def directive (c : Cursor) : Option (Directive × Cursor) := do
  let name := c.rest.takeWhile isNameChar
  let after := c.skip name.length
  if !startsBlank after.rest then none
  let (d, c) ←
    if name = ['Y', 'A', 'M', 'L'] then version after
    else if name = ['T', 'A', 'G'] then tagDirective after
    else none
  return (d, ← c.endLine?)

end SiteManifest.Yaml
