import SiteManifest.Decimal.Binary64

/-!
# The shortest decimal of a binary number

Of the decimals that round to a number of the binary format, the one with the fewest digits, and of
those the nearest to the number.
-/

namespace SiteManifest.Decimal

/-- A positive decimal `digits * 10 ^ exponent`. -/
structure Scientific where
  digits : Nat
  exponent : Int
  deriving DecidableEq, Repr

namespace Shortest

/--
A positive binary number as a ratio, with the ends of the interval of reals that round to it over
the same denominator. The ends belong to the interval iff the significand is even.
-/
structure Interval where
  value : Nat
  lower : Nat
  upper : Nat
  den : Nat
  closed : Bool

/-- The interval of a number. The gap below a power of two is half as wide as the one above. -/
def intervalOf (x : Binary64) : Interval :=
  let e := x.exponent - 2
  let up := Nat.pow 2 e.toNat
  let m := x.significand
  let gap := if m = Nat.pow 2 52 ∧ -1074 < x.exponent then 1 else 2
  { value := 4 * m * up, lower := (4 * m - gap) * up, upper := (4 * m + 2) * up,
    den := Nat.pow 2 (-e).toNat, closed := m % 2 == 0 }

/-- Whether `num / den` lies in the interval, for the interval's own denominator scaled by `k`. -/
def Interval.holds (i : Interval) (num k : Nat) : Bool :=
  if i.closed then i.lower * k ≤ num && num ≤ i.upper * k
  else i.lower * k < num && num < i.upper * k

/-- The exponent of ten of the first digit of `num / den`, for a positive ratio. -/
def leadingExponent (num den : Nat) : Int :=
  if den ≤ num then ((Nat.toDigits 10 (num / den)).length : Int) - 1
  else
    let q := (Nat.toDigits 10 ((den - 1) / num)).length
    if den ≤ num * Nat.pow 10 q then -(q : Int) else -(q : Int) - 1

/-- The point of the grid with spacing `10 ^ u` that lies in the interval, the nearer of two. -/
def gridPoint (i : Interval) (u : Int) : Option Nat :=
  let unit := i.den * Nat.pow 10 u.toNat
  let k := Nat.pow 10 (-u).toNat
  let num := i.value * k
  let q := num / unit
  let low := i.holds (q * unit) k
  let high := i.holds ((q + 1) * unit) k
  let r := num % unit
  if low && high then
    if 2 * r < unit ∨ (2 * r = unit ∧ q % 2 = 0) then some q else some (q + 1)
  else if low then some q
  else if high then some (q + 1)
  else none

/-- Tries grids of one digit more each time. -/
def search (i : Interval) (lead : Int) : Nat → Nat → Scientific
  | 0, n => ⟨i.value / i.den, (lead - n)⟩
  | fuel + 1, n =>
    match gridPoint i (lead - n) with
    | some d => ⟨d, lead - n⟩
    | none => search i lead fuel (n + 1)

/-- Drops zeros at the end of the digits; `fuel` bounds their number. -/
def dropZeros : Nat → Scientific → Scientific
  | 0, s => s
  | fuel + 1, s =>
    if s.digits ≠ 0 ∧ s.digits % 10 = 0 then dropZeros fuel ⟨s.digits / 10, s.exponent + 1⟩ else s

end Shortest

/-- The shortest decimal that rounds to the magnitude of a number that is not zero. -/
def Binary64.shortest (x : Binary64) : Scientific :=
  let i := Shortest.intervalOf x
  Shortest.dropZeros 20 (Shortest.search i (Shortest.leadingExponent i.value i.den) 18 0)

end SiteManifest.Decimal
