import SiteManifest.Decimal.Reading
import SiteManifest.Json.Basic

/-!
# Scalars of TOML

The values that are written without quotes or brackets: truth values, numbers, dates and times. What a
text of such characters stands for is decided by the whole of it. A number that is not finite stands
for nothing, and a date for an object that keeps its text.
-/

namespace SiteManifest.Toml

/-! ## Integers -/

/-- The digits of a text that may be parted by single underscores. -/
def digits? (isDigit : Char → Bool) (cs : List Char) : Option (List Char) :=
  let groups := cs.splitOn '_'
  if groups.all fun g => !g.isEmpty && g.all isDigit then some groups.flatten else none

/-- The decimal digits of a number, which has no leading zero. -/
def wholeDigits? (cs : List Char) : Option (List Char) :=
  if cs.head? = some '0' ∧ cs.length ≠ 1 then none else digits? Char.isDigit cs

/-- A sign, and what follows it. -/
def splitSign (cs : List Char) : Option Bool × List Char :=
  match cs with
  | '+' :: rest => (some false, rest)
  | '-' :: rest => (some true, rest)
  | _ => (none, cs)

/-- The value of a digit of a base up to sixteen. -/
def digitValue (c : Char) : Nat :=
  if c.isDigit then c.toNat - 48 else if 'a' ≤ c then c.toNat - 87 else c.toNat - 55

/-- Whether a character is a digit of a base up to sixteen. -/
def isDigitOf (base : Nat) (c : Char) : Bool :=
  (c.isDigit || ('a' ≤ c && c ≤ 'f') || ('A' ≤ c && c ≤ 'F')) && digitValue c < base

/-- The natural number that is written in a base. -/
def based? (base : Nat) (cs : List Char) : Option Nat :=
  (digits? (isDigitOf base) cs).map fun ds => ds.foldl (fun n d => base * n + digitValue d) 0

/-- The integer that a text spells. Only decimal numbers have a sign. -/
def integer? (cs : List Char) : Option Int :=
  match cs with
  | '0' :: 'x' :: rest => (based? 16 rest).map Int.ofNat
  | '0' :: 'o' :: rest => (based? 8 rest).map Int.ofNat
  | '0' :: 'b' :: rest => (based? 2 rest).map Int.ofNat
  | _ =>
    let (sign, body) := splitSign cs
    (wholeDigits? body).map fun ds =>
      let n := Decimal.digitsValue ds
      if sign = some true then -(n : Int) else n

/-! ## Floating point -/

/-- The exponent that follows the mark of one. -/
def exponent? (cs : List Char) : Option Int :=
  let (sign, body) := splitSign cs
  (digits? Char.isDigit body).map fun ds =>
    let n := Decimal.digitsValue ds
    if sign = some true then -(n : Int) else n

/-- Whether a character marks an exponent. -/
def isExponentMark (c : Char) : Bool := c == 'e' || c == 'E'

/-- The digits of a number with a fraction or an exponent, and the power of ten they are counted in. -/
def fractional? (cs : List Char) : Option (List Char × Int) := do
  let (mantissa, tail) := cs.span fun c => !isExponentMark c
  let exponent ← if tail.isEmpty then some 0 else exponent? (tail.drop 1)
  let (whole, point) := mantissa.span (· != '.')
  let fraction ← if point.isEmpty then some [] else digits? Char.isDigit (point.drop 1)
  let whole ← wholeDigits? whole
  if tail.isEmpty && point.isEmpty then none
  else some (whole ++ fraction, exponent - fraction.length)

/-- The value of a text that spells a number with a fraction or an exponent. Too large a number has
none. -/
def float? (cs : List Char) : Option Json :=
  let (sign, body) := splitSign cs
  if body = ['i', 'n', 'f'] ∨ body = ['n', 'a', 'n'] then some .null
  else do
    let (ds, exponent) ← fractional? body
    let x ← Decimal.Binary64.ofDigits (sign == some true) ds exponent
    return .number (.float x)

/-! ## Dates and times -/

/-- The number of two digits. -/
def two? (cs : List Char) : Option Nat :=
  if cs.length = 2 ∧ cs.all Char.isDigit then some (Decimal.digitsValue cs) else none

/-- How many days a month has. -/
def daysOfMonth (year month : Nat) : Nat :=
  if month = 2 then
    if year % 4 = 0 ∧ (year % 100 ≠ 0 ∨ year % 400 = 0) then 29 else 28
  else if month = 4 ∨ month = 6 ∨ month = 9 ∨ month = 11 then 30
  else 31

/-- Whether a text is a date of the calendar. -/
def isDate (cs : List Char) : Bool :=
  match cs.splitOn '-' with
  | [year, month, day] =>
    year.length == 4 && year.all Char.isDigit &&
      match two? month, two? day with
      | some m, some d =>
        1 ≤ m && m ≤ 12 && 1 ≤ d && d ≤ daysOfMonth (Decimal.digitsValue year) m
      | _, _ => false
  | _ => false

/-- Whether a text is a number of two digits that is not above a limit. -/
def isUpTo (limit : Nat) (cs : List Char) : Bool := (two? cs).any (· ≤ limit)

/-- Whether a text is a number of seconds, which may have a fraction. -/
def isSeconds (cs : List Char) : Bool :=
  match cs.splitOn '.' with
  | [s] => isUpTo 60 s
  | [s, fraction] => isUpTo 60 s && !fraction.isEmpty && fraction.all Char.isDigit
  | _ => false

/-- Whether a text is a time of day. The seconds may be missing. -/
def isTime (cs : List Char) : Bool :=
  match cs.splitOn ':' with
  | [h, m] => isUpTo 23 h && isUpTo 59 m
  | [h, m, s] => isUpTo 23 h && isUpTo 59 m && isSeconds s
  | _ => false

/-- Whether a text is the distance of a local time to universal time, without its sign. -/
def isOffset (cs : List Char) : Bool :=
  match cs.splitOn ':' with
  | [h, m] => isUpTo 23 h && isUpTo 59 m
  | _ => false

/-- Whether a text is a time of day that may be followed by the distance to universal time. -/
def isZonedTime (cs : List Char) : Bool :=
  match cs.span fun c => c != 'Z' && c != 'z' && c != '+' && c != '-' with
  | (time, []) => isTime time
  | (time, mark :: rest) =>
    isTime time && if mark == 'Z' || mark == 'z' then rest.isEmpty else isOffset rest

/-- Whether a text is a date, a time, or a date and a time. -/
def isDateTime (cs : List Char) : Bool :=
  isDate cs || isTime cs ||
    match cs.drop 10 with
    | mark :: time =>
      (mark == 'T' || mark == 't' || mark == ' ') && isDate (cs.take 10) && isZonedTime time
    | [] => false

/-- The key under which the text of a date is kept. -/
def dateKey : String := "$__toml_private_datetime"

/-! ## Scalars -/

/-- The value that a text stands for. -/
def scalar? (cs : List Char) : Option Json :=
  if cs = ['t', 'r', 'u', 'e'] then some (.bool true)
  else if cs = ['f', 'a', 'l', 's', 'e'] then some (.bool false)
  else
    match integer? cs with
    | some n => (Json.Number.ofInt? n).map .number
    | none =>
      if isDateTime cs then some (.object [(dateKey, .string (.ofList cs))]) else float? cs

/-- Whether a character may stand in a scalar. -/
def isScalarChar (c : Char) : Bool := c.isAlphanum || "+-_.:".toList.contains c

/-- Reads a scalar. After a date, a blank and a time may follow. -/
def readScalar (cs : List Char) : Option (Json × List Char) :=
  let (text, rest) := cs.span isScalarChar
  match rest with
  | ' ' :: d :: tail =>
    if isDate text && d.isDigit then
      let (time, rest) := (d :: tail).span isScalarChar
      (scalar? (text ++ ' ' :: time)).map fun v => (v, rest)
    else (scalar? text).map fun v => (v, rest)
  | _ => (scalar? text).map fun v => (v, rest)

end SiteManifest.Toml
