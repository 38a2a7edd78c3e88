import SiteManifest.Text.RangeTable

/-!
# Tables of code point mappings

A table that gives sequences of code points to some code points. It is written as a text in
hexadecimal, in rising order. An entry `lo-hi:t,u` gives the same sequence to a whole range; in
`lo-hi:t+` the sequence is a single code point that rises with the source, and `lo-hi:t*` is the same
for every second code point.
-/

namespace SiteManifest.Text

/-- An entry of a table. -/
structure MappingEntry where
  lo : Nat
  hi : Nat
  /-- The distance between two sources. -/
  step : Nat
  /-- Whether the target rises with the source. -/
  rising : Bool
  target : List Nat

/-- A table, as its entries. -/
abbrev MappingTable := List MappingEntry

/-- What an entry gives to a code point. -/
def MappingEntry.find? (e : MappingEntry) (n : Nat) : Option (List Nat) :=
  if e.lo ≤ n && n ≤ e.hi && (n - e.lo) % e.step == 0 then
    some (if e.rising then e.target.map (· + (n - e.lo)) else e.target)
  else none

namespace MappingTable

/-- Reads one entry. -/
def entryOfText (cs : List Char) : MappingEntry :=
  let (source, target) := cs.span (· != ':')
  let (lo, hi) := RangeTable.rangeOfText source
  let mark := target.getLast?
  let digits := (target.drop 1).filter fun c => c != '+' && c != '*'
  let targets := (digits.splitOn ',').map RangeTable.hexNumber
  ⟨lo, hi, if mark == some '*' then 2 else 1, mark == some '+' || mark == some '*', targets⟩

/-- Reads entries that are separated by blanks. -/
def ofText (s : String) : MappingTable := (RangeTable.wordsOf s).map entryOfText

/-- What a table gives to a code point. -/
def find? (t : MappingTable) (n : Nat) : Option (List Nat) :=
  t.findSome? (·.find? n)

end MappingTable

end SiteManifest.Text
