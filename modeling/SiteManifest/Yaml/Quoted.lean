import SiteManifest.Yaml.Gap

/-!
# Quoted scalars of YAML

Texts between quotes, which may go over several lines. Between single quotes only the quote itself has to
be written twice; between double quotes a backslash starts an escape, or joins two lines.
-/

namespace SiteManifest.Yaml

/-- The value of a hexadecimal digit. -/
def hexValue? (c : Char) : Option Nat :=
  if c.isDigit then some (c.toNat - 48)
  else if 'a' ≤ c && c ≤ 'f' then some (c.toNat - 87)
  else if 'A' ≤ c && c ≤ 'F' then some (c.toNat - 55)
  else none

/-- The number that hexadecimal digits spell. -/
def hexNumber? (cs : List Char) : Option Nat :=
  cs.foldlM (fun n c => (hexValue? c).map (16 * n + ·)) 0

/-- The character that a single letter after a backslash stands for. -/
def simpleEscape? (c : Char) : Option Char :=
  match c with
  | '0' => some '\x00'
  | 'a' => some '\x07'
  | 'b' => some '\x08'
  | 't' => some '\t'
  | '\t' => some '\t'
  | 'n' => some '\n'
  | 'v' => some '\x0b'
  | 'f' => some '\x0c'
  | 'r' => some '\r'
  | 'e' => some '\x1b'
  | ' ' => some ' '
  | '"' => some '"'
  | '/' => some '/'
  | '\\' => some '\\'
  | 'N' => some '\u0085'
  | '_' => some '\u00a0'
  | 'L' => some '\u2028'
  | 'P' => some '\u2029'
  | _ => none

/-- How many hexadecimal digits follow the letter of an escape. -/
def hexLength? (c : Char) : Option Nat :=
  if c = 'x' then some 2 else if c = 'u' then some 4 else if c = 'U' then some 8 else none

/-- The character of a code point that is spelled by a number of hexadecimal digits. -/
def codePoint? (length : Nat) (cs : List Char) : Option Char :=
  if cs.length = length then
    (hexNumber? cs).bind fun n => if n.isValidChar then some (.ofNat n) else none
  else none

/-- Reads an escape after its backslash. -/
def escape (c : Cursor) : Option (Char × Cursor) :=
  match c.rest with
  | [] => none
  | d :: rest =>
    match hexLength? d with
    | some n => (codePoint? n (rest.take n)).map fun x => (x, c.skip (n + 1))
    | none => (simpleEscape? d).map fun x => (x, c.skip 1)

/-- Reads a text after its quote. -/
def quotedText (quote : Char) : Nat → Cursor → Option (List Char × Cursor)
  | 0, _ => none
  | steps + 1, c =>
    if c.atDocumentMark then none
    else
      match c.rest with
      | [] => none
      | d :: rest =>
        if isBlank d || isBreak d then do
          let (gap, c) ← Gap.read 0 c.rest.length false c
          let (text, c) ← quotedText quote steps c
          return (gap.text ++ text, c)
        else if d = quote then
          if quote = '\x27' && rest.head? == some quote then do
            let (text, c) ← quotedText quote steps (c.skip 2)
            return (quote :: text, c)
          else some ([], c.skip 1)
        else if d = '\\' && quote == '"' then
          if rest.head?.any isBreak then do
            let (gap, c) ← Gap.read 0 c.rest.length true (c.skip 1).skipBreak
            let (text, c) ← quotedText quote steps c
            return (gap.breaks ++ text, c)
          else do
            let (x, c) ← escape (c.skip 1)
            let (text, c) ← quotedText quote steps c
            return (x :: text, c)
        else do
          let (text, c) ← quotedText quote steps (c.skip 1)
          return (d :: text, c)

end SiteManifest.Yaml
