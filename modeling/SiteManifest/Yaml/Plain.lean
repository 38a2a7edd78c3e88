import SiteManifest.Yaml.Gap

/-!
# Plain scalars of YAML

Texts without quotes. They end where something else starts: at a colon before a blank, at a comment, at
a mark of a document, at a line that is not indented, and between brackets at the signs of a list.
-/

namespace SiteManifest.Yaml

/-- A sign that ends a plain scalar between brackets. -/
def isFlowSign (c : Char) : Bool := ",[]\x7b\x7d".toList.contains c

/-- Reads a word. Between brackets, a colon before a sign is refused. -/
def plainWord (flow : Bool) : List Char → Option (List Char)
  | [] => some []
  | c :: rest =>
    if isBlank c || isBreak c then some []
    else if flow && c == ':' && rest.head?.any fun d => isFlowSign d || d == '?' then none
    else if c == ':' && startsBlank rest then some []
    else if flow && isFlowSign c then some []
    else (plainWord flow rest).map (c :: ·)

/-- Reads the words of a scalar after a gap. Also tells whether the text that is left starts on a line
after the last word. -/
def plainWords (flow : Bool) (indent : Int) : Nat → Gap → Cursor →
    Option (List Char × Bool × Cursor)
  | 0, _, _ => none
  | steps + 1, gap, c =>
    let stop := some ([], !gap.breaks.isEmpty, c)
    if c.atDocumentMark || c.rest.head? == some '#' then stop
    else do
      let word ← plainWord flow c.rest
      if word.isEmpty then stop
      else
        let c := c.skip word.length
        let (next, after) ← Gap.read indent c.rest.length false c
        if next == .empty then return (gap.text ++ word, false, c)
        else if !flow && after.column < indent then
          return (gap.text ++ word, !next.breaks.isEmpty, after)
        else
          let (text, broken, c) ← plainWords flow indent steps next after
          return (gap.text ++ word ++ text, broken, c)

/-- Reads a plain scalar whose lines must be indented. -/
def plainText (flow : Bool) (indent : Int) (c : Cursor) : Option (List Char × Bool × Cursor) :=
  plainWords flow indent (c.rest.length + 1) .empty c

end SiteManifest.Yaml
