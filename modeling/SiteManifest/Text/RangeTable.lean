/-!
# Tables of code point ranges

A set of code points is written as a text of ranges in hexadecimal, `41-5a 61-7a aa`, in rising
order. The tables of Unicode properties are kept in this form.
-/

namespace SiteManifest.Text

/-- Closed ranges of code points. -/
abbrev RangeTable := List (Nat × Nat)

namespace RangeTable

/-- The value of a hexadecimal digit. -/
def hexValue (c : Char) : Nat :=
  if c.isDigit then c.toNat - 48
  else if 'a' ≤ c && c ≤ 'f' then c.toNat - 87
  else c.toNat - 55

/-- The number that hexadecimal digits spell. -/
def hexNumber (cs : List Char) : Nat :=
  cs.foldl (fun n c => 16 * n + hexValue c) 0

/-- Reads one range: `lo-hi`, or a single code point. -/
def rangeOfText (cs : List Char) : Nat × Nat :=
  match cs.span (· != '-') with
  | (lo, []) => (hexNumber lo, hexNumber lo)
  | (lo, _ :: hi) => (hexNumber lo, hexNumber hi)

/-- The words of a text that are separated by blanks and line breaks. -/
def wordsOf (s : String) : List (List Char) :=
  (s.toList.splitOnP fun c => c == ' ' || c == '\n').filter (!·.isEmpty)

/-- Reads ranges that are separated by blanks. -/
def ofText (s : String) : RangeTable := (wordsOf s).map rangeOfText

/-- Whether a code point lies in one of the ranges. -/
def contains (t : RangeTable) (n : Nat) : Bool :=
  t.any fun r => r.1 ≤ n && n ≤ r.2

end RangeTable

end SiteManifest.Text
