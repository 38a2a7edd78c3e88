import SiteManifest.Yaml.Node
import SiteManifest.Yaml.Token

/-!
# Nodes from tokens

How the tokens of a document are put together. Where a node may be missing, the next token tells whether
it is.
-/

namespace SiteManifest.Yaml

/-- The tokens that are left, and what the names before them stand for. -/
structure Composition where
  tokens : List Token
  /-- The number that a name of an anchor has now. -/
  anchors : List (String × Nat)
  /-- What the handles of tags stand for. -/
  handles : List (String × String)
  deriving DecidableEq, Repr

/-- A way to read tokens. -/
abbrev Composer := StateT Composition Option

namespace Composer

/-! ## Tokens -/

/-- The next token. -/
def peek : Composer (Option Token) := return (← get).tokens.head?

/-- Passes a token. -/
def skip : Composer Unit := modify fun s => { s with tokens := s.tokens.drop 1 }

/-- Passes the next token if it is the given one, and tells whether it was. -/
def pass (t : Token) : Composer Bool := do
  if (← peek) == some t then
    skip
    return true
  else return false

/-- Whether the next token is one of the given ones. -/
def atOneOf (ts : List Token) : Composer Bool := return (← peek).any ts.contains

/-- As many steps as there are tokens left, and one more. -/
def steps : Composer Nat := return (← get).tokens.length + 1

/-! ## Properties -/

/-- Numbers an anchor: its number is how many names there were before. -/
def nameAnchor (name : String) : Composer Nat := do
  let s ← get
  let number := s.anchors.length
  set { s with anchors := (name, number) :: s.anchors.filter (·.1 != name) }
  return number

/-- Reads an anchor, if there is one. -/
def anchor : Composer (Option Nat) := do
  match ← peek with
  | some (.anchor name) =>
    skip
    return some (← nameAnchor name)
  | _ => return none

/-- The name that a tag stands for. Its handle must be known. -/
def tagName (t : RawTag) : Composer String := do
  if t.handle = "" then return t.suffix
  match (← get).handles.lookup t.handle with
  | some start => return start ++ t.suffix
  | none => failure

/-- Reads a tag, if there is one. -/
def tag : Composer (Option String) := do
  match ← peek with
  | some (.tag t) =>
    skip
    return some (← tagName t)
  | _ => return none

/-- Reads an anchor and a tag, in either order. Each of them may be missing. -/
def properties : Composer Properties := do
  let before ← anchor
  let name ← tag
  match before with
  | some a => return ⟨some a, name⟩
  | none => return ⟨← anchor, name⟩

/-! ## Collections -/

/-- How a node inside of a collection is read: whether it may be a block, and whether it may be a
sequence whose entries stand at the column of its key. -/
abbrev Child := Bool → Bool → Composer Node

/-- Reads a node, unless the next token shows that it is missing. -/
def unlessAt (ends : List Token) (read : Composer Node) : Composer Node := do
  if ← atOneOf ends then return .empty else read

/-- Reads the items of a sequence that is a block. -/
def blockItems (child : Child) : Nat → Composer (List Node)
  | 0 => failure
  | steps + 1 => do
    if ← pass .blockEnd then return []
    else if ← pass .blockEntry then
      let item ← unlessAt [.blockEntry, .blockEnd] (child true false)
      return item :: (← blockItems child steps)
    else failure

/-- Reads the items of a sequence whose entries stand at the column of its key. -/
def alignedItems (child : Child) : Nat → Composer (List Node)
  | 0 => failure
  | steps + 1 => do
    if ← pass .blockEntry then
      let item ← unlessAt [.blockEntry, .key, .value, .blockEnd] (child true false)
      return item :: (← alignedItems child steps)
    else return []

/-- Reads the value after a key, if there is one. -/
def valueUnlessAt (ends : List Token) (read : Composer Node) : Composer Node := do
  if ← pass .value then unlessAt ends read else return .empty

/-- Reads the entries of a mapping that is a block. -/
def blockEntries (child : Child) : Nat → Composer (List (Node × Node))
  | 0 => failure
  | steps + 1 => do
    if ← pass .blockEnd then return []
    else if ← pass .key then
      let ends : List Token := [.key, .value, .blockEnd]
      let k ← unlessAt ends (child true true)
      let v ← valueUnlessAt ends (child true true)
      return (k, v) :: (← blockEntries child steps)
    else failure

/-- Reads a mapping of one entry that stands in a sequence without brackets of its own. If the key is
missing, the token that shows it is passed. -/
def flowPair (child : Child) : Composer Node := do
  let ends : List Token := [.flowEntry, .flowSequenceEnd]
  let k ←
    if ← atOneOf (.value :: ends) then
      skip
      pure .empty
    else child false false
  let v ← valueUnlessAt ends (child false false)
  return .mapping .none [(k, v)]

/-- Passes the comma before an item. The first one has none. -/
def passComma (first : Bool) : Composer Unit := do
  if first then return ()
  if ← pass .flowEntry then return () else failure

/-- Reads the items of a sequence between brackets. -/
def flowItems (child : Child) (first : Bool) : Nat → Composer (List Node)
  | 0 => failure
  | steps + 1 => do
    if ← pass .flowSequenceEnd then return []
    passComma first
    if ← pass .flowSequenceEnd then return []
    let item ← if ← pass .key then flowPair child else child false false
    return item :: (← flowItems child false steps)

/-- Reads the entries of a mapping between braces. -/
def flowEntries (child : Child) (first : Bool) : Nat → Composer (List (Node × Node))
  | 0 => failure
  | steps + 1 => do
    if ← pass .flowMappingEnd then return []
    passComma first
    if ← pass .flowMappingEnd then return []
    let ends : List Token := [.flowEntry, .flowMappingEnd]
    let entry ←
      if ← pass .key then
        let k ← unlessAt (.value :: ends) (child false false)
        pure (k, ← valueUnlessAt ends (child false false))
      else pure (← child false false, .empty)
    return entry :: (← flowEntries child false steps)

/-! ## Nodes -/

/-- Reads a collection that starts with the next token, if it is one that may stand here. -/
def collection? (block aligned : Bool) (p : Properties) (t : Token) :
    Option (Child → Composer Node) :=
  match t with
  | .flowSequenceStart =>
    some fun child => do
      skip
      return .sequence p (← flowItems child true (← steps))
  | .flowMappingStart =>
    some fun child => do
      skip
      return .mapping p (← flowEntries child true (← steps))
  | .blockSequenceStart =>
    if block then
      some fun child => do
        skip
        return .sequence p (← blockItems child (← steps))
    else none
  | .blockMappingStart =>
    if block then
      some fun child => do
        skip
        return .mapping p (← blockEntries child (← steps))
    else none
  | .blockEntry =>
    if aligned then some fun child => return .sequence p (← alignedItems child (← steps)) else none
  | _ => none

/-- The node that has properties and nothing else. -/
def bare (p : Properties) : Composer Node :=
  if p = .none then failure else return .scalar p true ""

/-- Reads a node. What reads the nodes inside of a collection is given if the node may be one. The tag
that is a mere exclamation mark does not count for a scalar. -/
def nodeWith (child? : Option Child) : Child := fun block aligned => do
  match ← peek with
  | some (.alias name) =>
    skip
    match (← get).anchors.lookup name with
    | some a => return .alias a
    | none => failure
  | _ =>
    let p ← properties
    match ← peek with
    | none => bare p
    | some (.scalar text plain) =>
      skip
      return .scalar { p with tag := p.tag.filter (· != "!") } plain text
    | some t =>
      match collection? block aligned p t, child? with
      | none, _ => bare p
      | some _, none => failure
      | some read, some child => read child

/-- Reads a node, with collections nested no deeper than a number. -/
def node : Nat → Child
  | 0 => nodeWith none
  | depth + 1 => nodeWith (some (node depth))

end Composer

end SiteManifest.Yaml
