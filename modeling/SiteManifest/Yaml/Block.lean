import SiteManifest.Yaml.Gap

/-!
# Block scalars of YAML

Texts that are set off by their indentation. A header says whether line breaks are kept or joined, what
becomes of the line breaks at the end, and how far the text is indented.
-/

namespace SiteManifest.Yaml

/-- What becomes of the line breaks at the end of a block. -/
inductive Chomping where
  | strip
  | clip
  | keep
  deriving DecidableEq, Repr

/-- The header of a block. -/
structure BlockHeader where
  chomping : Chomping
  /-- How far the text is indented. Zero leaves it to the text. -/
  increment : Nat
  deriving DecidableEq, Repr

namespace Block

/-- The chomping that a sign chooses. -/
def chomping? (c : Char) : Option Chomping :=
  if c = '+' then some .keep else if c = '-' then some .strip else none

/-- Reads the signs of a header, in either order. The digit must not be zero. -/
def header (c : Cursor) : Option (BlockHeader × Cursor) :=
  let digit (c : Cursor) : Nat × Cursor :=
    match c.rest.head? with
    | some d => if d.isDigit then (d.toNat - 48, c.skip 1) else (0, c)
    | none => (0, c)
  let sign (c : Cursor) : Chomping × Cursor :=
    match c.rest.head?.bind chomping? with
    | some x => (x, c.skip 1)
    | none => (.clip, c)
  let (chomping, afterSign) := sign c
  if c.rest.head? = some '0' ∨ (afterSign.index ≠ c.index ∧ afterSign.rest.head? = some '0') then none
  else if afterSign.index ≠ c.index then
    let (increment, c) := digit afterSign
    some (⟨chomping, increment⟩, c)
  else
    let (increment, afterDigit) := digit c
    if afterDigit.index ≠ c.index then
      let (chomping, c) := sign afterDigit
      some (⟨chomping, increment⟩, c)
    else some (⟨.clip, 0⟩, c)

/-- Reads empty lines, and the blanks before the next line. Without an indentation, all blanks are read
and the widest line of blanks is told. A tab must not stand where the indentation is expected. -/
def breaks (indent : Nat) : Nat → Nat → Cursor → Option (List Char × Nat × Cursor)
  | 0, _, _ => none
  | steps + 1, widest, c =>
    let blanks := (c.rest.takeWhile (· == ' ')).length
    let c := c.skip (if indent = 0 then blanks else min blanks (indent - c.column))
    let widest := max widest c.column
    let expected := indent == 0 || c.column < indent
    match c.rest with
    | [] => some ([], widest, c)
    | d :: _ =>
      if expected && d == '\t' then none
      else if isBreak d then do
        let (bs, widest, after) ← breaks indent steps widest c.skipBreak
        return (c.breakChar :: bs, widest, after)
      else some ([], widest, c)

/-- The line breaks between two lines of a block whose lines are joined, where the lines around them do
not start with a blank. -/
def folded (lead : List Char) (trail : List Char) : List Char :=
  if lead = ['\n'] then (if trail.isEmpty then [' '] else trail) else lead ++ trail

/-- Reads the lines of a block. Given are the break after the line before, the breaks of the empty lines
after it, and whether it started with a blank. What is left over at the end are the two kinds of
breaks. -/
def lines (literal : Bool) (indent : Nat) : Nat → List Char → List Char → Bool → Cursor →
    Option (List Char × List Char × List Char × Cursor)
  | 0, _, _, _, _ => none
  | steps + 1, lead, trail, leadBlank, c =>
    if c.column ≠ indent ∨ c.rest.isEmpty then some ([], lead, trail, c)
    else do
      let blank := c.rest.head?.any isBlank
      let joint :=
        if literal || leadBlank || blank then lead ++ trail else folded lead trail
      let line := c.rest.takeWhile (!isBreak ·)
      let c := c.skip line.length
      let lead := if c.rest.isEmpty then [] else [c.breakChar]
      let c := c.skipBreak
      let (trail, _, c) ← breaks indent (c.rest.length + 1) 0 c
      let (text, lead, trail, c) ← lines literal indent steps lead trail blank c
      return (joint ++ line ++ text, lead, trail, c)

/-- Reads a block after its sign. The indentation of what surrounds it is given. -/
def read (literal : Bool) (parent : Int) (c : Cursor) : Option (List Char × Cursor) := do
  let (header, c) ← header c
  let c ← c.endLine?
  let least := (max parent 0).toNat
  let fixed := if header.increment = 0 then 0 else least + header.increment
  let (first, widest, c) ← breaks fixed (c.rest.length + 1) 0 c
  let indent :=
    if header.increment = 0 then max (max widest (parent + 1).toNat) 1 else fixed
  let (text, lead, trail, c) ← lines literal indent (c.rest.length + 1) [] first false c
  let tail :=
    match header.chomping with
    | .strip => []
    | .clip => lead
    | .keep => lead ++ trail
  return (text ++ tail, c)

end Block

end SiteManifest.Yaml
