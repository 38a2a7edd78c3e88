import SiteManifest.Yaml.Token

/-!
# Layout of a YAML text

What has been read of a text, and what the rest depends on: which blocks and brackets are open, and where
a key may have started. That something is a key is known only at the colon after it; the tokens before
the key are then put where it started.
-/

namespace SiteManifest.Yaml

/-- A place where a key may have started. -/
structure Candidate where
  /-- Whether only a key can stand there. -/
  required : Bool
  /-- How many tokens come before it. -/
  number : Nat
  index : Nat
  line : Nat
  column : Nat
  deriving DecidableEq, Repr

/-- The state of a text that is read. -/
structure Layout where
  cursor : Cursor
  /-- The tokens so far, the last one first. -/
  tokens : List Token
  /-- The columns of the open blocks, the innermost first. -/
  columns : List Nat
  /-- Where a key may have started, inside the innermost brackets. -/
  candidate : Option Candidate
  /-- The same outside of each of the open brackets, the innermost first. -/
  outer : List (Option Candidate)
  /-- Whether a key may start. -/
  keyAllowed : Bool
  deriving DecidableEq, Repr

namespace Layout

/-- The start of a text. A byte order mark is passed, but it takes a column. -/
def ofText (cs : List Char) : Layout :=
  let c := Cursor.ofText cs
  ⟨if cs.head? = some '\ufeff' then c.skip 1 else c, [], [], none, [], true⟩

/-- Whether brackets are open. Inside, indentation does not count. -/
def inFlow (s : Layout) : Bool := !s.outer.isEmpty

/-- The column of the innermost block. -/
def indent (s : Layout) : Int :=
  match s.columns with
  | [] => -1
  | column :: _ => column

/-- Adds a token. -/
def emit (t : Token) (s : Layout) : Layout := { s with tokens := t :: s.tokens }

/-- Puts a token after a number of tokens. -/
def insert (number : Nat) (t : Token) (s : Layout) : Layout :=
  { s with tokens := s.tokens.insertIdx (s.tokens.length - number) t }

/-- Passes a number of characters, and adds the token for them. -/
def sign (length : Nat) (t : Token) (s : Layout) : Layout :=
  { s with cursor := s.cursor.skip length, tokens := t :: s.tokens }

/-! ## Blocks -/

/-- Begins a block at a column and after a number of tokens, unless there is one at the column. -/
def openBlock (column number : Nat) (start : Token) (s : Layout) : Layout :=
  if s.inFlow || (column : Int) ≤ s.indent then s
  else { s.insert number start with columns := column :: s.columns }

/-- Begins a block at the present place. -/
def openBlockHere (start : Token) (s : Layout) : Layout :=
  s.openBlock s.cursor.column s.tokens.length start

/-- Ends the blocks to the right of a column. -/
def closeBlocks (column : Int) (s : Layout) : Layout :=
  if s.inFlow then s
  else
    let closed := s.columns.takeWhile fun (c : Nat) => decide (column < c)
    { s with
      tokens := List.replicate closed.length .blockEnd ++ s.tokens
      columns := s.columns.drop closed.length }

/-! ## Keys -/

/-- Notes that what follows is no key. A key that is required must not get lost. -/
def dropCandidate (s : Layout) : Option Layout :=
  if s.candidate.any (·.required) then none else some { s with candidate := none }

/-- Notes that a key may start here. -/
def noteCandidate (s : Layout) : Option Layout :=
  if s.keyAllowed then
    let c := s.cursor
    let required := !s.inFlow && s.indent == (c.column : Int)
    s.dropCandidate.map fun s =>
      { s with candidate := some ⟨required, s.tokens.length, c.index, c.line, c.column⟩ }
  else some s

/-- Says whether a key may start next. -/
def allowKey (allowed : Bool) (s : Layout) : Layout := { s with keyAllowed := allowed }

/-- Whether a key that started at a place would be on an earlier line, or too long. -/
def isStale (c : Cursor) (k : Candidate) : Bool := k.line < c.line || k.index + 1024 < c.index

/-- Forgets a key that is stale. It must not be required. -/
def refreshed (c : Cursor) (k : Option Candidate) : Option (Option Candidate) :=
  if k.any (isStale c) then (if k.any (·.required) then none else some none) else some k

/-- Forgets all keys that are stale. -/
def refresh (s : Layout) : Option Layout := do
  let candidate ← refreshed s.cursor s.candidate
  let outer ← s.outer.mapM (refreshed s.cursor)
  return { s with candidate, outer }

/-! ## Gaps -/

/-- Passes blanks, comments and line breaks. After a line break a key may start. Where a key may start
outside of brackets, a tab does not count as a blank. -/
def skipGap : Nat → Layout → Layout
  | 0, s => s
  | steps + 1, s =>
    let tabs := s.inFlow || !s.keyAllowed
    let c := (s.cursor.skipWhile fun d => d == ' ' || (tabs && d == '\t')).skipComment
    if c.rest.head?.any isBreak then
      skipGap steps { s with cursor := c.skipBreak, keyAllowed := s.keyAllowed || !s.inFlow }
    else { s with cursor := c }

end Layout

end SiteManifest.Yaml
