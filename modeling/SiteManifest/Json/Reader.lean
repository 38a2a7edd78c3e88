import SiteManifest.Json.Punctuation

/-!
# Reading JSON

The reader of whole values. Lists and objects may be nested in each other to a limited depth. A
number of steps bounds the entries of one list or object; the length of the text is enough.
-/

namespace SiteManifest.Json

/-- How deep lists and objects may be nested. -/
def maxDepth : Nat := 127

namespace Read

/-- Reads the items of a list up to its closing bracket. -/
def items {α : Type} (item : Reader α) : Nat → Bool → List Char → Except Fault (List α × List Char)
  | 0, _, cs => .error (.here .endInList cs)
  | steps + 1, first, cs => do
    match ← nextItem first cs with
    | .close bracket => return ([], bracket)
    | .entry start =>
      let (x, rest) ← item start
      let (xs, rest) ← items item steps false rest
      return (x :: xs, rest)

/-- Reads the members of an object up to its closing bracket. -/
def members {α : Type} (item : Reader α) :
    Nat → Bool → List Char → Except Fault (List (String × α) × List Char)
  | 0, _, cs => .error (.here .endInObject cs)
  | steps + 1, first, cs => do
    match ← nextKey first cs with
    | .close bracket => return ([], bracket)
    | .entry start =>
      let (k, rest) ← key start
      let (x, rest) ← item (← colon rest)
      let (xs, rest) ← members item steps false rest
      return ((k, x) :: xs, rest)

/-- Reads a list after its opening bracket. -/
def list (item : Reader Json) (steps : Nat) : Reader Json := fun cs => do
  let (xs, rest) ← items item steps true cs
  return (.array xs, ← closeList rest)

/-- Reads an object after its opening bracket. -/
def object (item : Reader Json) (steps : Nat) : Reader Json := fun cs => do
  let (ms, rest) ← members item steps true cs
  return (.object ms, ← closeObject rest)

/-- Reads a value. The readers of lists and objects are given the text from the bracket on. -/
def valueWith (list object : Reader Json) : Reader Json := fun cs => do
  match skipBlanks cs with
  | [] => throw (.here .endInValue [])
  | c :: rest =>
    if c = 'n' then return (.null, ← word ['u', 'l', 'l'] rest)
    else if c = 't' then return (.bool true, ← word ['r', 'u', 'e'] rest)
    else if c = 'f' then return (.bool false, ← word ['a', 'l', 's', 'e'] rest)
    else if c = '-' then
      let (n, rest) ← number true rest
      return (.number n, rest)
    else if c.isDigit then
      let (n, rest) ← number false (c :: rest)
      return (.number n, rest)
    else if c = '"' then
      let (s, rest) ← stringBody rest
      return (.string (.ofList s), rest)
    else if c = '[' then list (c :: rest)
    else if c = '\x7b' then object (c :: rest)
    else throw (.next .valueExpected (c :: rest))

/-- Reads a value in which lists and objects are nested at most to a depth. -/
def value (steps : Nat) : Nat → Reader Json
  | 0 => valueWith (fun cs => .error (.next .tooDeep cs)) (fun cs => .error (.next .tooDeep cs))
  | depth + 1 =>
    valueWith (fun cs => list (value steps depth) steps cs.tail)
      (fun cs => object (value steps depth) steps cs.tail)

/-- Nothing but blanks may follow a value. -/
def atEnd (cs : List Char) : Except Fault Unit :=
  let rest := skipBlanks cs
  if rest.isEmpty then .ok () else .error (.next .trailingCharacters rest)

/-- Reads a text that holds one thing and nothing after it. -/
def whole {α : Type} (reader : Reader α) (cs : List Char) : Except Fault α := do
  let (x, rest) ← reader cs
  atEnd rest
  return x

end Read

/-- The value that a text holds. -/
def ofText (text : String) : Except Fault Json :=
  let cs := text.toList
  Read.whole (Read.value (cs.length + 1) maxDepth) cs

end SiteManifest.Json
