import SiteManifest.Yaml.Cursor

/-!
# Gaps between words

A text may go on after blanks and line breaks. The blanks around line breaks do not count; a single
line break stands for a blank, and of several the first one does not count.
-/

namespace SiteManifest.Yaml

/-- What stands between two words: blanks before the first line break, and the line breaks. -/
structure Gap where
  blanks : List Char
  breaks : List Char
  deriving DecidableEq, Repr

namespace Gap

/-- The gap that holds nothing. -/
def empty : Gap := ⟨[], []⟩

/-- The text that line breaks stand for when lines are joined. -/
def joined : List Char → List Char
  | [] => []
  | b :: more => if b = '\n' then (if more.isEmpty then [' '] else more) else b :: more

/-- The text that a gap stands for. -/
def text (g : Gap) : List Char := if g.breaks.isEmpty then g.blanks else joined g.breaks

/-- Reads a gap. With `broken`, it starts after a line break. A tab is refused where a line after a break
has fewer characters than `indent`. -/
def read (indent : Int) : Nat → Bool → Cursor → Option (Gap × Cursor)
  | 0, _, c => some (empty, c)
  | steps + 1, broken, c =>
    match c.rest with
    | [] => some (empty, c)
    | d :: _ =>
      if isBlank d then
        if broken && c.column < indent && d == '\t' then none
        else
          (read indent steps broken (c.skip 1)).map fun (g, rest) =>
            (if broken then g else { g with blanks := d :: g.blanks }, rest)
      else if isBreak d then
        (read indent steps true c.skipBreak).map fun (g, rest) =>
          (⟨[], c.breakChar :: g.breaks⟩, rest)
      else some (empty, c)

end Gap

end SiteManifest.Yaml
