import SiteManifest.Decimal.Binary64

/-!
# Reading decimal numbers

The number that a sequence of digits and a power of ten spell. Powers that are far out of the format's
range are not computed.
-/

namespace SiteManifest.Decimal

/-- The value of a sequence of decimal digits. -/
def digitsValue (ds : List Char) : Nat := ds.foldl (fun n d => 10 * n + (d.toNat - 48)) 0

/-- The number nearest to `± ds * 10 ^ exponent`; `none` if it is too large for the format. -/
def Binary64.ofDigits (negative : Bool) (ds : List Char) (exponent : Int) : Option Binary64 :=
  let ds := ds.dropWhile (· == '0')
  let lead := exponent + ds.length
  if ds.isEmpty ∨ lead < -400 then some (zero negative)
  else if 400 < lead then none
  else ofDecimal negative (digitsValue ds) exponent

end SiteManifest.Decimal
