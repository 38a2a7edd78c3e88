import SiteManifest.Json.Basic

/-!
# Tables of TOML

A table is filled by statements that stand apart in the text. What may still be added to it depends on
how it came to be: by a header of its own, on the way to another header, or by a key with dots. What is
written as a value is complete.
-/

namespace SiteManifest.Toml

/-- How a table came to be. -/
inductive Origin where
  /-- It has a header of its own, or is an element of a list of tables. -/
  | header
  /-- It lies on the way to another header. -/
  | ancestor
  /-- It lies on the way of a key with dots. -/
  | dotted
  deriving DecidableEq, Repr

/-- What a key of a table stands for. -/
inductive Node where
  | value (v : Json)
  | table (origin : Origin) (entries : List (String × Node))
  /-- A list of tables, each with a header. -/
  | tables (items : List (List (String × Node)))

/-- The entries of a table. -/
abbrev Entries := List (String × Node)

namespace Entries

/-- Sets the entry of a key. A new entry comes last. -/
def set (key : String) (node : Node) : Entries → Entries
  | [] => [(key, node)]
  | (k, n) :: rest => if k = key then (k, node) :: rest else (k, n) :: set key node rest

/-- A change of a table. It may be refused. -/
abbrev Change := Origin → Entries → Option Entries

/-- Makes a change in the table that a path leads to from a table. Tables that are missing on the way are
made; the way leads through the last element of a list of tables. A key with dots must not lead into a
table that has a header. -/
def changeAt (dotted : Bool) (change : Change) : List String → Change
  | [], origin, entries => change origin entries
  | key :: path, _, entries => do
    let made := if dotted then Origin.dotted else Origin.ancestor
    match entries.lookup key with
    | none => return entries.set key (.table made (← changeAt dotted change path made []))
    | some (.table origin inner) =>
      if dotted && origin == .header then none
      else return entries.set key (.table origin (← changeAt dotted change path origin inner))
    | some (.tables items) =>
      match items.getLast? with
      | none => none
      | some last =>
        let last ← changeAt dotted change path .header last
        return entries.set key (.tables (items.dropLast ++ [last]))
    | some (.value _) => none

/-- Adds a value under a key. A table that a key with dots has made takes values only from such keys, and
any other table only from keys without. -/
def addValue (dotted : Bool) (key : String) (v : Json) : Change := fun origin entries =>
  if (origin == .dotted) != dotted then none
  else if (entries.lookup key).isSome then none
  else some (entries.set key (.value v))

/-- Adds a value under a key with dots. -/
def addAt (path : List String) (key : String) (v : Json) : Change :=
  changeAt true (addValue (!path.isEmpty) key v) path

/-- Gives a table a header. -/
def openTable (key : String) : Change := fun _ entries =>
  match entries.lookup key with
  | none => some (entries.set key (.table .header []))
  | some (.table .ancestor inner) => some (entries.set key (.table .header inner))
  | some _ => none

/-- Adds an element to a list of tables. -/
def openElement (key : String) : Change := fun _ entries =>
  match entries.lookup key with
  | none => some (entries.set key (.tables [[]]))
  | some (.tables items) => some (entries.set key (.tables (items ++ [[]])))
  | some _ => none

end Entries

mutual

/-- The value that a key stands for. -/
def Node.toJson : Node → Json
  | .value v => v
  | .table _ entries => .object (members entries)
  | .tables items => .array (elements items)

/-- The members of a table. -/
def members : List (String × Node) → List (String × Json)
  | [] => []
  | (k, n) :: rest => (k, n.toJson) :: members rest

/-- The elements of a list of tables. -/
def elements : List (List (String × Node)) → List Json
  | [] => []
  | e :: rest => .object (members e) :: elements rest

end

end SiteManifest.Toml
