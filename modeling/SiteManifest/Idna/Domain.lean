import SiteManifest.Idna.Direction
import SiteManifest.Idna.Joining
import SiteManifest.Idna.Mapping
import SiteManifest.Idna.Punycode
import SiteManifest.Text.Normal

/-!
# Domain names

Which texts can be domain names, and the labels that they stand for. The characters are mapped and
composed; then every label is looked at on its own, and last the writing direction of them all.
-/

namespace SiteManifest.Idna

/-- The ASCII characters that no domain name may hold. -/
def isForbidden (c : Char) : Bool :=
  c.toNat ≤ 0x20 || c.toNat == 0x7f || "%#/:<>?@[\\]^|".toList.contains c

/-- Whether the characters of a label may stand together. -/
def isLabel (l : List Char) : Bool :=
  l.all (fun c => isValid c && !isForbidden c) && !l.head?.any isMark && joinersFit [] l

/-- The mark of a label that is spelled with ASCII characters. -/
def spelledMark : List Char := ['x', 'n', '-', '-']

/-- The longest spelled label that is read, without its mark. -/
def maxSpelled : Nat := 2000

/-- The longest label that can be spelled. -/
def maxUnspelled : Nat := 1000

/-- The label that a mapped and composed text stands for. -/
def label? (l : List Char) : Option (List Char) :=
  if l.take 4 = spelledMark then
    if l.getLast? = some '-' || maxSpelled < l.length - 4 then none
    else
      match Punycode.decode (l.drop 4) with
      | none => none
      | some d => if Text.normal d = d && !d.contains '.' && isLabel d then some d else none
  else if l.any (0x80 ≤ ·.toNat) && maxUnspelled < l.length then none
  else if isLabel l then some l
  else none

/-- The labels that a domain name stands for, unless it cannot be one. -/
def labels? (name : List Char) : Option (List (List Char)) := do
  let mapped ← map? name
  let labels ← ((Text.normal mapped).splitOn '.').mapM label?
  if direct labels then some labels else none

end SiteManifest.Idna
