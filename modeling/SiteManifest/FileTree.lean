import SiteManifest.FilePath

/-!
# File trees

The files and directories that a program sees, and where a path leads in them.
-/

namespace SiteManifest

/-- A file or a directory. A locked file is there, but may not be read. -/
inductive FileTree where
  | file (content : ByteArray)
  | locked
  | directory (entries : List (String × FileTree))

namespace FileTree

/-- The entries of a directory. A file has none. -/
def entries? : FileTree → Option (List (String × FileTree))
  | .file _ | .locked => none
  | .directory entries => some entries

/-- What a list of names leads to. -/
def find? (t : FileTree) : List String → Option FileTree
  | [] => some t
  | name :: names => do
    let entry ← (← t.entries?).lookup name
    entry.find? names

/-- Whether a list of names leads to a directory. -/
def isDirectory (t : FileTree) (place : List String) : Bool :=
  ((t.find? place).bind entries?).isSome

/-- Where one step of a path leads from a place. Only a directory can be left. -/
def step? (t : FileTree) (place : List String) (segment : String) : Option (List String) :=
  if !t.isDirectory place then none
  else if segment = "" ∨ segment = "." then some place
  else if segment = ".." then some place.dropLast
  else if (t.find? (place ++ [segment])).isSome then some (place ++ [segment])
  else none

/-- Where a path leads, from a working directory. An empty path leads nowhere, nor does one with a
NUL. -/
def resolve? (t : FileTree) (working : List String) (p : FilePath) : Option (List String) :=
  if p.text = "" ∨ p.text.toList.contains '\x00' then none
  else p.segments.foldlM t.step? (if p.isAbsolute then [] else working)

/-- The file or directory that a path leads to. -/
def open? (t : FileTree) (working : List String) (p : FilePath) : Option FileTree :=
  (t.resolve? working p).bind t.find?

/-! ## Changes -/

/-- Sets the entry of a name. A new entry comes last. -/
def setEntry (name : String) (node : FileTree) :
    List (String × FileTree) → List (String × FileTree)
  | [] => [(name, node)]
  | (n, t) :: rest => if n = name then (n, node) :: rest else (n, t) :: setEntry name node rest

/-- Puts something at a place, and makes the directories that lead there. -/
def put : FileTree → List String → FileTree → FileTree
  | _, [], node => node
  | t, name :: names, node =>
    let entries := t.entries?.getD []
    let inner := (entries.lookup name).getD (.directory [])
    .directory (setEntry name (inner.put names node) entries)

/-- Removes what is at a place. -/
def remove : FileTree → List String → FileTree
  | t, [] => t
  | t, [name] => .directory ((t.entries?.getD []).filter (·.1 != name))
  | t, name :: names =>
    .directory ((t.entries?.getD []).map fun e => if e.1 = name then (e.1, e.2.remove names) else e)

/-- The place that a path names, whether there is something or not. -/
def placeOf (working : List String) (p : FilePath) : List String :=
  p.components.foldl
    (fun place c =>
      match c with
      | .root => []
      | .here => place
      | .up => place.dropLast
      | .name n => place ++ [n])
    working

end FileTree

end SiteManifest
