import SiteManifest.Decimal.Reading
import SiteManifest.Json.Basic

/-!
# Scalars of YAML

What a scalar stands for. A plain scalar may spell nothing, a truth value or a number; all else is text.
A tag of the standard can ask for one of these.
-/

namespace SiteManifest.Yaml

/-! ## Words -/

/-- The words for nothing. -/
def isNullWord (text : String) : Bool := ["null", "Null", "NULL", "~"].contains text

/-- The truth value that a word stands for. -/
def bool? (text : String) : Option Bool :=
  if ["true", "True", "TRUE"].contains text then some true
  else if ["false", "False", "FALSE"].contains text then some false
  else none

/-! ## Integers -/

/-- The value of a digit of a base up to sixteen. -/
def digitOf? (base : Nat) (c : Char) : Option Nat :=
  let value :=
    if c.isDigit then c.toNat - 48
    else if 'a' ≤ c && c ≤ 'z' then c.toNat - 87
    else if 'A' ≤ c && c ≤ 'Z' then c.toNat - 55
    else base
  if value < base then some value else none

/-- The number that digits of a base spell. -/
def based? (base : Nat) (cs : List Char) : Option Nat :=
  if cs.isEmpty then none
  else cs.foldlM (fun n c => (digitOf? base c).map (base * n + ·)) 0

/-- The number that digits spell, whose base may stand in front of them. -/
def magnitude? (cs : List Char) : Option Nat :=
  match cs with
  | '0' :: 'x' :: digits => based? 16 digits
  | '0' :: 'o' :: digits => based? 8 digits
  | '0' :: 'b' :: digits => based? 2 digits
  | _ => based? 10 cs

/-- A sign, whether it is a minus, and what follows it. -/
def splitSign (cs : List Char) : Option Bool × List Char :=
  match cs with
  | '+' :: rest => (some false, rest)
  | '-' :: rest => (some true, rest)
  | _ => (none, cs)

/-- Whether a text consists of several digits of which the first is zero. Such a text is no number. -/
def isPadded (cs : List Char) : Bool :=
  let body := (splitSign cs).2
  1 < body.length && body.head? == some '0' && body.all Char.isDigit

/-- The integer that a text spells, if it has at most 128 bits. -/
def integer? (cs : List Char) : Option Int :=
  if isPadded cs then none
  else
    let (sign, body) := splitSign cs
    (magnitude? body).bind fun n =>
      if sign = some true then (if n ≤ Nat.pow 2 127 then some (-(n : Int)) else none)
      else if n < Nat.pow 2 128 then some (n : Int) else none

/-! ## Floating point -/

/-- The exponent that follows the mark of one. -/
def exponent? (cs : List Char) : Option Int :=
  let (sign, body) := splitSign cs
  if body.isEmpty || !body.all Char.isDigit then none
  else
    let n := Decimal.digitsValue body
    some (if sign = some true then -(n : Int) else n)

/-- The number that a text without a sign spells, with a point and an exponent. -/
def decimal? (negative : Bool) (cs : List Char) : Option Decimal.Binary64 := do
  let (mantissa, tail) := cs.span fun c => c != 'e' && c != 'E'
  let (whole, point) := mantissa.span (· != '.')
  let fraction := point.drop 1
  let exponent ← if tail.isEmpty then some 0 else exponent? (tail.drop 1)
  let digits := whole ++ fraction
  if digits.isEmpty || !digits.all Char.isDigit then none
  else Decimal.Binary64.ofDigits negative digits (exponent - fraction.length)

/-- The value of a text that spells a number. One that is not finite stands for nothing. -/
def float? (text : String) : Option Json :=
  if [".inf", ".Inf", ".INF", "+.inf", "+.Inf", "+.INF", "-.inf", "-.Inf", "-.INF", ".nan", ".NaN",
      ".NAN"].contains text then
    some .null
  else
    let (sign, body) := splitSign text.toList
    (decimal? (sign == some true) body).map fun x => .number (.float x)

/-! ## Values -/

/-- The value of an integer. It must have at most 64 bits. -/
def integerValue? (n : Int) : Option Json := (Json.Number.ofInt? n).map .number

/-- The value of a plain scalar without a tag. -/
def plainValue? (text : String) : Option Json :=
  if text = "" ∨ isNullWord text then some .null
  else
    match bool? text with
    | some b => some (.bool b)
    | none =>
      match integer? text.toList with
      | some n => integerValue? n
      | none =>
        if isPadded text.toList then some (.string text)
        else some ((float? text).getD (.string text))

/-- The name of a kind of values of the standard. -/
def standardTag (kind : String) : String := "tag:yaml.org,2002:" ++ kind

/-- Whether a tag names a kind of values that is not of the standard. -/
def isLocalTag (tag : Option String) : Bool := tag.any (·.startsWith "!")

/-- The value of a scalar. -/
def scalarValue? (tag : Option String) (plain : Bool) (text : String) : Option Json :=
  match tag with
  | none => if plain then plainValue? text else some (.string text)
  | some name =>
    if name = standardTag "null" then (if isNullWord text then some .null else none)
    else if name = standardTag "bool" then (bool? text).map .bool
    else if name = standardTag "int" then (integer? text.toList).bind integerValue?
    else if name = standardTag "float" then float? text
    else if isLocalTag tag then none
    else some (.string text)

end SiteManifest.Yaml
