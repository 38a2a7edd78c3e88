import SiteManifest.Shape.Decoder

/-!
# Records

A record is written as an object with a member for each field, or as the list of its fields' values.
In an object the members may come in any order, unknown keys are passed over, and a field that is not
given keeps its blank value. In a list every field is given, except that some may be left out at the
end.
-/

namespace SiteManifest.Shape

open Json (Fault Reader)
open Json.Read

/-- A field of a record: its key, whether a list may leave it out, and how its value is stored. -/
structure Field (ρ : Type) where
  key : String
  omittable : Bool
  store : Decoder (ρ → ρ)

/-- A field that is `null` when it holds nothing. -/
def Field.ofOption {ρ α : Type} (key : String) (d : Decoder α) (set : Option α → ρ → ρ) : Field ρ :=
  ⟨key, false, d.optional.map set⟩

/-- A field that a list may leave out. -/
def Field.atEnd {ρ α : Type} (key : String) (d : Decoder α) (set : α → ρ → ρ) : Field ρ :=
  ⟨key, true, d.map set⟩

/-- What a record is: its name, what it holds when nothing is given, and its fields in order. -/
structure Record (ρ : Type) where
  name : String
  blank : ρ
  fields : List (Field ρ)

namespace Record

variable {ρ : Type}

/-- Inserts a field into a list that is sorted by key. -/
def insertByKey (f : Field ρ) : List (Field ρ) → List (Field ρ)
  | [] => [f]
  | g :: gs => if f.key < g.key then f :: g :: gs else g :: insertByKey f gs

/-- The fields in the order of their keys. -/
def fieldsByKey (r : Record ρ) : List (Field ρ) :=
  r.fields.foldr insertByKey []

/-- Stores the value that the members of an object give a field, if they give one. -/
def storeMember (members : List (String × Json)) (x : ρ) (f : Field ρ) : Except Mismatch ρ :=
  match Json.lookup f.key members with
  | none => .ok x
  | some v => (f.store.ofJson v).map (· x)

/-- Reads a record from the members of an object, field by field in the order of the keys. -/
def ofMembers (r : Record ρ) (members : List (String × Json)) : Except Mismatch ρ :=
  r.fieldsByKey.foldlM (storeMember members) r.blank

/-- Reads the remaining fields, of which `given` are read, from the remaining items of a list. -/
def ofItems (r : Record ρ) (length given : Nat) :
    List (Field ρ) → List Json → ρ → Except Mismatch ρ
  | [], [], x => .ok x
  | [], _ :: _, _ => .error (.tooLong length)
  | f :: fs, [], x =>
    if f.omittable then ofItems r length (given + 1) fs [] x
    else .error (.tooShort given r.name r.fields.length)
  | f :: fs, v :: vs, x =>
    match f.store.ofJson v with
    | .error m => .error m
    | .ok store => ofItems r length (given + 1) fs vs (store x)

/-- Reads the remaining fields, of which `given` are read, from a text inside a list. -/
def itemsOfText (r : Record ρ) (steps given : Nat) :
    Bool → List (Field ρ) → ρ → Reader ρ
  | _, [], x, cs => return (x, ← closeList cs)
  | first, f :: fs, x, cs => do
    match ← nextItem first cs with
    | .close bracket =>
      if f.omittable then itemsOfText r steps (given + 1) first fs x bracket
      else throw (.here (.mismatch (.tooShort given r.name r.fields.length)) (listEnd bracket))
    | .entry start =>
      let (store, rest) ← f.store.ofText steps start
      itemsOfText r steps (given + 1) false fs (store x) rest

/-- Reads members from a text inside an object. A field may not be given twice. -/
def membersOfText (r : Record ρ) (steps : Nat) :
    Nat → Bool → List String → ρ → Reader ρ
  | 0, _, _, _, cs => .error (.here .endInObject cs)
  | more + 1, first, seen, x, cs => do
    match ← nextKey first cs with
    | .close bracket => return (x, ← closeObject bracket)
    | .entry start =>
      let (k, rest) ← key start
      match r.fields.find? (·.key == k) with
      | none => membersOfText r steps more false seen x (← skipValue (2 * steps) (← colon rest))
      | some f =>
        if seen.contains k then throw (.here (.mismatch (.repeatedField k)) (objectEnd rest))
        let (store, rest) ← f.store.ofText steps (← colon rest)
        membersOfText r steps more false (k :: seen) (store x) rest

/-- The decoder of a record. -/
def decoder (r : Record ρ) : Decoder ρ where
  ofJson
    | .object members => r.ofMembers members
    | .array items => r.ofItems items.length 0 r.fields items r.blank
    | v => .error (.kind (.ofJson v) (.record r.name))
  ofText steps cs :=
    match skipBlanks cs with
    | '\x7b' :: rest => r.membersOfText steps steps true [] r.blank rest
    | '[' :: rest => r.itemsOfText steps 0 true r.fields r.blank rest
    | cs => .error (wrongKind (.record r.name) cs)

end Record

end SiteManifest.Shape
