/-!
# Binary floating point of 64 bits

A finite number of the format is a sign, a significand below 2 ^ 53 and an exponent of two not below
-1074. Arithmetic is exact on ratios of naturals and rounds once, to the nearest number of the
format and to the even significand on a tie.
-/

namespace SiteManifest.Decimal

/-- A finite number `± significand * 2 ^ exponent`; zero carries a sign. -/
structure Binary64 where
  negative : Bool
  significand : Nat
  exponent : Int
  deriving DecidableEq, Repr

/-- The quotient rounded to the nearest natural, on a tie to the even one. -/
def roundDiv (num den : Nat) : Nat :=
  let q := num / den
  let r := num % den
  if 2 * r < den then q
  else if den < 2 * r then q + 1
  else if q % 2 = 0 then q else q + 1

namespace Binary64

/-- Zero with a sign. -/
def zero (negative : Bool) : Binary64 := ⟨negative, 0, -1074⟩

/-- The numerator of `num * 2 ^ -e` over `den`. -/
def scaledNum (num : Nat) (e : Int) : Nat :=
  num * Nat.pow 2 (-e).toNat

/-- The denominator of `num * 2 ^ -e` over `den`. -/
def scaledDen (den : Nat) (e : Int) : Nat :=
  den * Nat.pow 2 e.toNat

/-- The exponent at which `num / den` has 53 binary digits, or the least exponent of the format. -/
def fittingExponent (num den : Nat) : Int :=
  let e := max ((num.log2 : Int) - den.log2 - 53) (-1074)
  if Nat.pow 2 53 ≤ scaledNum num e / scaledDen den e then e + 1 else e

/-- The number of the format nearest to `± num / den`; `none` if it is too large for the format. -/
def ofRatio (negative : Bool) (num den : Nat) : Option Binary64 :=
  if num = 0 then some (zero negative)
  else
    let e := fittingExponent num den
    let m := roundDiv (scaledNum num e) (scaledDen den e)
    let (m, e) := if m = Nat.pow 2 53 then (Nat.pow 2 52, e + 1) else (m, e)
    if 971 < e then none else some ⟨negative, m, e⟩

/-- Rounds `± num / den * 2 ^ e`. -/
def ofScaledRatio (negative : Bool) (num den : Nat) (e : Int) : Option Binary64 :=
  ofRatio negative (num * Nat.pow 2 e.toNat) (den * Nat.pow 2 (-e).toNat)

/-- The number of the format nearest to a natural. -/
def ofNat (n : Nat) : Option Binary64 := ofRatio false n 1

/-- The number of the format nearest to `± digits * 10 ^ exponent`. -/
def ofDecimal (negative : Bool) (digits : Nat) (exponent : Int) : Option Binary64 :=
  ofRatio negative (digits * Nat.pow 10 exponent.toNat) (Nat.pow 10 (-exponent).toNat)

/-- The product, rounded. -/
def mul (x y : Binary64) : Option Binary64 :=
  ofScaledRatio (x.negative != y.negative) (x.significand * y.significand) 1 (x.exponent + y.exponent)

/-- The quotient, rounded. The divisor is not zero. -/
def div (x y : Binary64) : Option Binary64 :=
  ofScaledRatio (x.negative != y.negative) x.significand y.significand (x.exponent - y.exponent)

/-- The same number with the given sign. -/
def withSign (x : Binary64) (negative : Bool) : Binary64 := { x with negative }

/-- Whether the number is zero, of either sign. -/
def isZero (x : Binary64) : Bool := x.significand == 0

end Binary64

end SiteManifest.Decimal
