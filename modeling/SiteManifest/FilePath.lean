/-!
# File paths

Paths as texts, and what can be told from the text alone: the components between slashes, the ending of
the name, the directory above. Empty components and single dots do not count, except for a dot at the
start of a relative path.
-/

namespace SiteManifest

/-- A path, as it is written. -/
structure FilePath where
  text : String
  deriving DecidableEq, Repr

namespace FilePath

/-- A step of a path. -/
inductive Component where
  | root
  | here
  | up
  | name (name : String)
  deriving DecidableEq, Repr

/-- The step that a text between slashes stands for. -/
def Component.ofText? (s : String) : Option Component :=
  if s = "" ∨ s = "." then none
  else if s = ".." then some .up
  else some (.name s)

/-- Whether a path starts at the root. -/
def isAbsolute (p : FilePath) : Bool := p.text.toList.head? == some '/'

/-- The texts between the slashes of a path. -/
def segments (p : FilePath) : List String := (p.text.toList.splitOn '/').map String.ofList

/-- The first step of a path, if it is none of those between slashes. -/
def start (p : FilePath) : List Component :=
  if p.isAbsolute then [.root]
  else if p.segments.head? = some "." then [.here]
  else []

/-- The steps of a path. -/
def components (p : FilePath) : List Component :=
  p.start ++ p.segments.filterMap Component.ofText?

/-- The name that a path ends with. -/
def fileName? (p : FilePath) : Option String :=
  match p.components.getLast? with
  | some (.name n) => some n
  | _ => none

/-- What follows the last dot of a name. A dot at the start does not count. -/
def extensionOf? (name : String) : Option String :=
  match name.toList.reverse.span (· != '.') with
  | (_, []) => none
  | (_, [_]) => none
  | (after, _ :: _) => some (.ofList after.reverse)

/-- The ending of the name of a path. -/
def extension? (p : FilePath) : Option String := p.fileName?.bind extensionOf?

/-! ## Directories -/

/-- Drops what does not count at the end of a path, given from its end: slashes, and the dots
between them. The first character of the path always counts. -/
def trimFromEnd : List Char → List Char
  | '/' :: c :: rest => trimFromEnd (c :: rest)
  | '.' :: '/' :: rest => trimFromEnd ('/' :: rest)
  | cs => cs

theorem trimFromEnd_length (cs : List Char) : (trimFromEnd cs).length ≤ cs.length := by
  fun_induction trimFromEnd cs with
  | case1 c rest ih => exact Nat.le_succ_of_le ih
  | case2 rest ih => exact Nat.le_succ_of_le ih
  | case3 cs => exact Nat.le_refl _

/-- The directory above a path, unless the path is empty or is the root. -/
def parent? (p : FilePath) : Option FilePath :=
  match trimFromEnd p.text.toList.reverse with
  | [] => none
  | c :: rest =>
    if c = '/' then none
    else some ⟨.ofList (trimFromEnd (rest.dropWhile (· != '/'))).reverse⟩

theorem parent?_length {p q : FilePath} (h : p.parent? = some q) :
    q.text.toList.length < p.text.toList.length := by
  unfold parent? at h
  split at h
  · simp at h
  · next c rest ht =>
    split at h
    · simp at h
    · have h1 := trimFromEnd_length (rest.dropWhile (· != '/'))
      have h2 := trimFromEnd_length p.text.toList.reverse
      have h3 := (List.dropWhile_suffix (l := rest) (· != '/')).length_le
      rw [ht] at h2
      simp only [Option.some.injEq] at h
      subst h
      simp only [String.toList_ofList, List.length_reverse, List.length_cons] at h2 ⊢
      omega

/-- A path and all directories above it, the nearest first. -/
def ancestors (p : FilePath) : List FilePath :=
  match _h : p.parent? with
  | none => [p]
  | some q => p :: q.ancestors
termination_by p.text.toList.length
decreasing_by exact parent?_length _h

/-- A name in a directory. The empty path is the directory that relative paths start from. -/
def join (directory : FilePath) (name : String) : FilePath :=
  match directory.text.toList.getLast? with
  | none => ⟨name⟩
  | some '/' => ⟨directory.text ++ name⟩
  | some _ => ⟨directory.text ++ "/" ++ name⟩

end FilePath

end SiteManifest
