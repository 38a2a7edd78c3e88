import SiteManifest.Decimal.Notation

/-!
# JSON values

Values as a text gives them: the members of an object stay in the order of the text, repeated keys
included. Looking a key up finds its last member.
-/

namespace SiteManifest

/-- A number: an integer of at most 64 bits, signed or not, or a floating point number. -/
inductive Json.Number where
  | integer (value : Int)
  | float (value : Decimal.Binary64)
  deriving DecidableEq, Repr

/-- A JSON value. -/
inductive Json where
  | null
  | bool (value : Bool)
  | number (value : Json.Number)
  | string (value : String)
  | array (items : List Json)
  | object (members : List (String × Json))
  deriving Repr, Inhabited

namespace Json

/-- Whether the value is `null`. -/
def isNull : Json → Bool
  | .null => true
  | _ => false

theorem isNull_iff {v : Json} : v.isNull = true ↔ v = .null := by
  cases v <;> simp [isNull]

/-! ## Equality -/

mutual

/-- Whether two values are the same, or two lists of items or of members. -/
def same : Json → Json → Bool
  | .null, .null => true
  | .bool x, .bool y => x == y
  | .number x, .number y => x == y
  | .string x, .string y => x == y
  | .array vs, .array ws => sameItems vs ws
  | .object ms, .object ns => sameMembers ms ns
  | _, _ => false

@[inherit_doc same]
def sameItems : List Json → List Json → Bool
  | [], [] => true
  | v :: vs, w :: ws => same v w && sameItems vs ws
  | _, _ => false

@[inherit_doc same]
def sameMembers : List (String × Json) → List (String × Json) → Bool
  | [], [] => true
  | (k, v) :: ms, (l, w) :: ns => k == l && same v w && sameMembers ms ns
  | _, _ => false

end

mutual

theorem same_iff (v w : Json) : same v w = true ↔ v = w := by
  cases v <;> cases w <;> simp [same, sameItems_iff, sameMembers_iff]

theorem sameItems_iff (vs ws : List Json) : sameItems vs ws = true ↔ vs = ws := by
  cases vs <;> cases ws <;> simp [sameItems, same_iff, sameItems_iff]

theorem sameMembers_iff (ms ns : List (String × Json)) : sameMembers ms ns = true ↔ ms = ns := by
  cases ms <;> cases ns <;> simp [sameMembers, same_iff, sameMembers_iff, Prod.ext_iff]

end

-- no handler derives this, as the values are nested in lists
instance : DecidableEq Json := fun v w => decidable_of_iff _ (same_iff v w)

/-! ## Integers and keys -/

/-- The least and the greatest integer that a number holds exactly. -/
def Number.minInteger : Int := -Int.pow 2 63

@[inherit_doc Number.minInteger]
def Number.maxInteger : Int := Int.pow 2 64 - 1

/-- The number for an integer, if it has at most 64 bits. -/
def Number.ofInt? (n : Int) : Option Number :=
  if minInteger ≤ n ∧ n ≤ maxInteger then some (.integer n) else none

/-- The value under a key: that of the last member with this key. -/
def lookup (key : String) (members : List (String × Json)) : Option Json :=
  (members.reverse.find? (·.1 == key)).map (·.2)

end Json

end SiteManifest
