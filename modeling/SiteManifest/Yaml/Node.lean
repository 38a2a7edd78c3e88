import SiteManifest.Yaml.Scalar

/-!
# Nodes of YAML

The tree of a document before its scalars have values. A node that has an anchor can be repeated by an
alias. Anchors are numbered; if several nodes have the same number, the last one counts.
-/

namespace SiteManifest.Yaml

/-- What may be said of a node: its anchor and its tag. -/
structure Properties where
  anchor : Option Nat
  tag : Option String
  deriving DecidableEq, Repr

/-- Nothing is said of a node. -/
def Properties.none : Properties := ⟨.none, .none⟩

/-- A node of a document. -/
inductive Node where
  | alias (anchor : Nat)
  | scalar (properties : Properties) (plain : Bool) (text : String)
  | sequence (properties : Properties) (items : List Node)
  | mapping (properties : Properties) (entries : List (Node × Node))
  deriving Repr, Inhabited

namespace Node

/-- The node that stands where nothing is written. -/
def empty : Node := .scalar .none true ""

mutual

/-- How large a node is: a collection counts twice, besides what it holds. -/
def size : Node → Nat
  | .alias _ => 1
  | .scalar .. => 1
  | .sequence _ items => 2 + sizeItems items
  | .mapping _ entries => 2 + sizeEntries entries

/-- How large the items of a sequence are. -/
def sizeItems : List Node → Nat
  | [] => 0
  | n :: ns => n.size + sizeItems ns

/-- How large the entries of a mapping are. -/
def sizeEntries : List (Node × Node) → Nat
  | [] => 0
  | (k, v) :: es => k.size + v.size + sizeEntries es

end

/-- A node under the number of its anchor. -/
def underAnchor (p : Properties) (n : Node) : List (Nat × Node) :=
  match p.anchor with
  | none => []
  | some a => [(a, n)]

mutual

/-- The nodes with an anchor, in the order of the text. -/
def anchored : Node → List (Nat × Node)
  | .alias _ => []
  | .scalar p plain text => underAnchor p (.scalar p plain text)
  | .sequence p items => underAnchor p (.sequence p items) ++ anchoredItems items
  | .mapping p entries => underAnchor p (.mapping p entries) ++ anchoredEntries entries

/-- The nodes with an anchor among the items of a sequence. -/
def anchoredItems : List Node → List (Nat × Node)
  | [] => []
  | n :: ns => n.anchored ++ anchoredItems ns

/-- The nodes with an anchor among the entries of a mapping. -/
def anchoredEntries : List (Node × Node) → List (Nat × Node)
  | [] => []
  | (k, v) :: es => k.anchored ++ v.anchored ++ anchoredEntries es

end

/-! ## Values -/

/-- How deep collections may be nested. -/
def maxDepth : Nat := 128

/-- What the values of a document depend on: the nodes that aliases repeat, and how many aliases may be
followed. -/
structure Scope where
  anchors : List (Nat × Node)
  maxAliases : Nat

/-- The scope of a document. -/
def scope (root : Node) : Scope := ⟨root.anchored.reverse, 100 * root.size⟩

/-- Something that is read while aliases are counted. -/
abbrev Valued := StateT Nat Option

/-- The node itself, or the node that an alias repeats. -/
def target (s : Scope) : Node → Valued Node
  | .alias a => do
    let followed ← get
    if s.maxAliases ≤ followed then failure
    set (followed + 1)
    match s.anchors.lookup a with
    | some n => return n
    | none => failure
  | n => return n

/-- The text of a key. Only a scalar can be a key, and its tag does not count. -/
def key (s : Scope) (n : Node) : Valued String := do
  match ← n.target s with
  | .scalar _ _ text => return text
  | _ => failure

/-- The value of a node. What gives the values of the nodes inside of a collection is given if the node
may be one. -/
def valueWith (child? : Option (Node → Valued Json)) (s : Scope) (n : Node) : Valued Json := do
  match ← n.target s, child? with
  | .scalar p plain text, _ => (scalarValue? p.tag plain text).elim failure pure
  | .sequence p items, some child =>
    if isLocalTag p.tag then failure
    return .array (← items.mapM child)
  | .mapping p entries, some child =>
    if isLocalTag p.tag then failure
    return .object (← entries.mapM fun (k, v) => do return (← k.key s, ← child v))
  | _, _ => failure

/-- The value of a node, with collections nested no deeper than a number. -/
def value (s : Scope) : Nat → Node → Valued Json
  | 0 => valueWith none s
  | depth + 1 => valueWith (some (value s depth)) s

/-- The value of a document. -/
def documentValue? (root : Node) : Option Json := ((value root.scope maxDepth root).run 0).map (·.1)

end Node

end SiteManifest.Yaml
