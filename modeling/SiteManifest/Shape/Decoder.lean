import SiteManifest.Json.Reader
import SiteManifest.Json.Skip

/-!
# Decoders

A decoder reads data of one shape, either from a JSON value or directly from a JSON text. Both ways
take the same values; they differ in the reports. From a value the report is the mismatch alone; from
a text it also has a place, and faults of the text itself are reported too.
-/

namespace SiteManifest.Shape

open Json (Fault Problem Reader)
open Json.Read

/-- A reader of data of one shape. The text reader is given a bound for the entries of a list. -/
structure Decoder (α : Type) where
  ofJson : Json → Except Mismatch α
  ofText : Nat → Reader α

/-- What stands at the start of a text, and the text up to which it had to be read to tell. -/
def found (cs : List Char) : Except Fault (Found × List Char) :=
  match cs with
  | [] => .error (.here .endInValue [])
  | c :: rest =>
    if c = '[' then .ok (.list, cs)
    else if c = '\x7b' then .ok (.object, cs)
    else
      (valueWith (fun cs => .ok (.null, cs)) (fun cs => .ok (.null, cs)) (c :: rest)).map
        fun (v, rest) => (Found.ofJson v, rest)

/-- The fault of a text that holds something else than expected. -/
def wrongKind (expected : Expected) (cs : List Char) : Fault :=
  match found cs with
  | .error f => f
  | .ok (found, rest) => .here (.mismatch (.kind found expected)) rest

namespace Decoder

/-- Changes what is made of the data. -/
def map {α β : Type} (f : α → β) (d : Decoder α) : Decoder β where
  ofJson v := (d.ofJson v).map f
  ofText steps cs := (d.ofText steps cs).map fun (x, rest) => (f x, rest)

/-- A text. -/
def text : Decoder String where
  ofJson
    | .string s => .ok s
    | v => .error (.kind (.ofJson v) .text)
  ofText _ cs :=
    match skipBlanks cs with
    | '"' :: rest => (stringBody rest).map fun (s, rest) => (.ofList s, rest)
    | cs => .error (wrongKind .text cs)

/-- A truth value. -/
def flag : Decoder Bool where
  ofJson
    | .bool b => .ok b
    | v => .error (.kind (.ofJson v) .flag)
  ofText _ cs :=
    match skipBlanks cs with
    | 't' :: rest => (word ['r', 'u', 'e'] rest).map fun rest => (true, rest)
    | 'f' :: rest => (word ['a', 'l', 's', 'e'] rest).map fun rest => (false, rest)
    | cs => .error (wrongKind .flag cs)

/-- Nothing, or data of a shape. Nothing is written `null`. -/
def optional {α : Type} (d : Decoder α) : Decoder (Option α) where
  ofJson
    | .null => .ok none
    | v => (d.ofJson v).map some
  ofText steps cs :=
    match skipBlanks cs with
    | 'n' :: rest => (word ['u', 'l', 'l'] rest).map fun rest => (none, rest)
    | cs => (d.ofText steps cs).map fun (x, rest) => (some x, rest)

/-- A list of data of a shape. -/
def list {α : Type} (d : Decoder α) : Decoder (List α) where
  ofJson
    | .array items => items.mapM d.ofJson
    | v => .error (.kind (.ofJson v) .list)
  ofText steps cs :=
    match skipBlanks cs with
    | '[' :: rest => do
      let (xs, rest) ← items (d.ofText steps) steps true rest
      return (xs, ← closeList rest)
    | cs => .error (wrongKind .list cs)

/-- The meaning of a word, or the report that it has none. -/
def meaning {α : Type} (words : List (String × α)) (w : String) : Except Mismatch α :=
  match words.lookup w with
  | some x => .ok x
  | none => .error (.unknownWord w (words.map (·.1)))

/-- Reads one of several words from a text that starts with its quote. -/
def wordOfText {α : Type} (words : List (String × α)) : Reader α := fun cs => do
  let (s, rest) ← stringBody cs.tail
  match meaning words (.ofList s) with
  | .ok x => return (x, rest)
  | .error m => throw (.here (.mismatch m) rest)

/-- Reads one of several words as the only key of an object, after the brace. Its value is `null`. -/
def wordAsKey {α : Type} (words : List (String × α)) : Reader α := fun cs => do
  let name := skipBlanks cs
  if name.head? ≠ some '"' then throw (wrongKind .variantName name)
  let (x, rest) ← wordOfText words name
  let value := skipBlanks (← colon rest)
  let rest ←
    match value with
    | 'n' :: rest => word ['u', 'l', 'l'] rest
    | cs => throw (wrongKind .nothing cs)
  match skipBlanks rest with
  | [] => throw (.here .endInObject [])
  | c :: rest => if c = '\x7d' then return (x, rest) else throw (.here .valueExpected (c :: rest))

/-- One of several words, written as a text or as the only key of an object whose value is `null`. -/
def oneOf {α : Type} (words : List (String × α)) : Decoder α where
  ofJson
    | .string w => meaning words w
    | .object members =>
      match members.getLast? with
      | none => .error .notSingleKey
      | some (w, v) =>
        if members.any (·.1 != w) then .error .notSingleKey
        else do
          let x ← meaning words w
          if v.isNull then return x else throw (.kind (.ofJson v) .nothing)
    | v => .error (.kind (.ofJson v) .textOrObject)
  ofText _ cs :=
    match skipBlanks cs with
    | [] => .error (.here .endInValue [])
    | c :: rest =>
      if c = '"' then wordOfText words (c :: rest)
      else if c = '\x7b' then wordAsKey words rest
      else .error (.next .valueExpected (c :: rest))

end Decoder

end SiteManifest.Shape
