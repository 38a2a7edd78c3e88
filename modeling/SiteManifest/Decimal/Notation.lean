import SiteManifest.Decimal.Shortest

/-!
# Written decimals

How a binary number is written: its shortest digits, with a point and at least one digit after it
for magnitudes that are neither very large nor very small, and with an exponent otherwise.
-/

namespace SiteManifest.Decimal

/-- The digits of a natural. -/
def digitsOf (n : Nat) : List Char := Nat.toDigits 10 n

/-- A natural in decimal. -/
def natText (n : Nat) : String := .ofList (digitsOf n)

/-- Digits `ds` whose first one stands for `10 ^ lead`, with a point. -/
def positional (ds : List Char) (lead : Int) : List Char :=
  if lead < 0 then
    '0' :: '.' :: List.replicate (-lead - 1).toNat '0' ++ ds
  else
    let whole := lead.toNat + 1
    if ds.length ≤ whole then
      ds ++ List.replicate (whole - ds.length) '0' ++ ['.', '0']
    else
      ds.take whole ++ '.' :: ds.drop whole

/-- Digits `ds` whose first one stands for `10 ^ lead`, with an exponent that shows its sign. -/
def exponential (ds : List Char) (lead : Int) : List Char :=
  ds.take 1 ++ (if ds.length ≤ 1 then [] else '.' :: ds.drop 1)
    ++ ['e', if lead < 0 then '-' else '+'] ++ digitsOf lead.natAbs

/-- A magnitude is written with an exponent unless its first digit stands for 10⁻⁵ to 10¹⁵. -/
def magnitudeText (s : Scientific) : List Char :=
  let ds := digitsOf s.digits
  let lead := s.exponent + ds.length - 1
  if -5 ≤ lead ∧ lead ≤ 15 then positional ds lead else exponential ds lead

/-- The text of a number. -/
def Binary64.text (x : Binary64) : String :=
  let sign := if x.negative then ['-'] else []
  .ofList (sign ++ if x.isZero then ['0', '.', '0'] else magnitudeText x.shortest)

end SiteManifest.Decimal
