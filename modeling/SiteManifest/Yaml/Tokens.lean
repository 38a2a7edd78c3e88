import SiteManifest.Yaml.Block
import SiteManifest.Yaml.Layout
import SiteManifest.Yaml.Plain

/-!
# Reading the tokens of a YAML text

The tokens of a whole text. Where a text is not YAML, the token that says so is the last one.
-/

namespace SiteManifest.Yaml

namespace Layout

/-! ## Documents -/

/-- Ends all blocks before something that stands between documents. -/
def betweenDocuments (s : Layout) : Option Layout :=
  (s.closeBlocks (-1)).dropCandidate.map (allowKey false)

/-- Reads a directive. -/
def readDirective (s : Layout) : Option Layout := do
  let s ← s.betweenDocuments
  let (d, cursor) ← directive (s.cursor.skip 1)
  return { s with cursor, tokens := .directive d :: s.tokens }

/-- Reads the mark of a document. -/
def readMark (mark : Token) (s : Layout) : Option Layout := s.betweenDocuments.map (sign 3 mark)

/-! ## Brackets -/

/-- Reads an opening bracket. -/
def openBracket (t : Token) (s : Layout) : Option Layout :=
  s.noteCandidate.map fun s =>
    { s.sign 1 t with candidate := none, outer := s.candidate :: s.outer, keyAllowed := true }

/-- Reads a closing bracket. -/
def closeBracket (t : Token) (s : Layout) : Option Layout :=
  s.dropCandidate.map fun s =>
    { s.sign 1 t with
      candidate := s.outer.head?.getD none, outer := s.outer.drop 1, keyAllowed := false }

/-- Reads a comma. -/
def readComma (s : Layout) : Option Layout :=
  s.dropCandidate.map fun s => (s.sign 1 .flowEntry).allowKey true

/-! ## Signs of blocks -/

/-- Begins a block of a sign that stands where a key may start. Inside brackets there are no blocks. -/
def enterBlock (start : Token) (s : Layout) : Option Layout :=
  if s.inFlow then some s else if s.keyAllowed then some (s.openBlockHere start) else none

/-- Reads the sign of an entry. -/
def readEntry (s : Layout) : Option Layout := do
  let s ← s.enterBlock .blockSequenceStart
  let s ← s.dropCandidate
  return (s.sign 1 .blockEntry).allowKey true

/-- Reads the sign of a key. -/
def readKey (s : Layout) : Option Layout := do
  let s ← s.enterBlock .blockMappingStart
  let s ← s.dropCandidate
  return (s.sign 1 .key).allowKey (!s.inFlow)

/-- Reads a colon. Where a key may have started there was one. -/
def readColon (s : Layout) : Option Layout :=
  match s.candidate with
  | some k =>
    let s := (s.insert k.number .key).openBlock k.column k.number .blockMappingStart
    some { s.sign 1 .value with candidate := none, keyAllowed := false }
  | none =>
    (s.enterBlock .blockMappingStart).map fun s => (s.sign 1 .value).allowKey (!s.inFlow)

/-! ## Names and scalars -/

/-- Reads something that a key may start with. -/
def readContent (read : Cursor → Option (Token × Cursor)) (s : Layout) : Option Layout := do
  let s ← s.noteCandidate
  let (t, cursor) ← read s.cursor
  return { s with cursor, tokens := t :: s.tokens, keyAllowed := false }

/-- Reads a name after its sign. -/
def readName (token : String → Token) : Layout → Option Layout :=
  readContent fun c => (anchorName (c.skip 1)).map fun (name, c) => (token name, c)

/-- Reads a tag. -/
def readTag (s : Layout) : Option Layout :=
  s.readContent fun c => (rawTag s.inFlow c).map fun (t, c) => (.tag t, c)

/-- Reads a text between quotes. -/
def readQuoted (quote : Char) : Layout → Option Layout :=
  readContent fun c =>
    (quotedText quote (c.rest.length + 1) (c.skip 1)).map fun (text, c) =>
      (.scalar (.ofList text) false, c)

/-- Reads a plain scalar. If the text goes on in another line, a key may start there. -/
def readPlain (s : Layout) : Option Layout := do
  let s ← s.noteCandidate
  let (text, broken, cursor) ← plainText s.inFlow (s.indent + 1) s.cursor
  return { s with cursor, tokens := .scalar (.ofList text) true :: s.tokens, keyAllowed := broken }

/-- Reads a text that is set off by its indentation. -/
def readBlock (literal : Bool) (s : Layout) : Option Layout := do
  let s ← s.dropCandidate
  let (text, cursor) ← Block.read literal s.indent (s.cursor.skip 1)
  return { s with cursor, tokens := .scalar (.ofList text) false :: s.tokens, keyAllowed := true }

/-! ## Texts -/

/-- A sign that a plain scalar does not start with. -/
def isSign (c : Char) : Bool := "-?:,[]\x7b\x7d#&*!|>\x27\"%@\x60".toList.contains c

/-- Whether a plain scalar starts at a place. Before other characters than blanks, some signs may be
its first character. -/
def startsPlain (flow : Bool) (cs : List Char) : Bool :=
  match cs with
  | [] => false
  | c :: rest =>
    !(isBlank c || isBreak c || isSign c)
      || (c == '-' && !rest.head?.any isBlank)
      || (!flow && (c == '?' || c == ':') && !startsBlank rest)

/-- Reads what stands at a place that is neither the end of the text nor a gap. -/
def readNext (first : Char) (rest : List Char) (s : Layout) : Option Layout :=
  let apart := startsBlank rest
  if first = '%' ∧ s.cursor.column = 0 then s.readDirective
  else if s.cursor.atMark '-' then s.readMark .documentStart
  else if s.cursor.atMark '.' then s.readMark .documentEnd
  else if first = '[' then s.openBracket .flowSequenceStart
  else if first = '\x7b' then s.openBracket .flowMappingStart
  else if first = ']' then s.closeBracket .flowSequenceEnd
  else if first = '\x7d' then s.closeBracket .flowMappingEnd
  else if first = ',' then s.readComma
  else if first = '-' ∧ apart then s.readEntry
  else if first = '?' ∧ (s.inFlow || apart) then s.readKey
  else if first = ':' ∧ (s.inFlow || apart) then s.readColon
  else if first = '*' then s.readName .alias
  else if first = '&' then s.readName .anchor
  else if first = '!' then s.readTag
  else if first = '|' ∧ !s.inFlow then s.readBlock true
  else if first = '>' ∧ !s.inFlow then s.readBlock false
  else if first = '\x27' ∨ first = '"' then s.readQuoted first
  else if startsPlain s.inFlow s.cursor.rest then s.readPlain
  else none

/-- Reads the end of the text. -/
def finish (s : Layout) : Option Layout :=
  ({ s with cursor := { s.cursor with column := 0 } }.closeBlocks (-1)).dropCandidate

/-- Reads a text to its end, or to where it is not YAML. -/
def complete : Nat → Layout → Layout
  | 0, s => s.emit .fault
  | steps + 1, s =>
    let s := s.skipGap (s.cursor.rest.length + 1)
    match s.refresh with
    | none => s.emit .fault
    | some s =>
      let s := s.closeBlocks s.cursor.column
      match s.cursor.rest with
      | [] => s.finish.getD (s.emit .fault)
      | first :: rest =>
        match s.readNext first rest with
        | none => s.emit .fault
        | some s => complete steps s

end Layout

/-- The tokens of a text. A character that may not stand in a YAML text is a fault of all of it. -/
def tokens (text : String) : List Token :=
  let cs := text.toList
  if cs.all isAllowed then (Layout.complete (cs.length + 1) (.ofText cs)).tokens.reverse
  else [.fault]

end SiteManifest.Yaml
