import SiteManifest.Json.Fault

/-!
# Words, strings and numbers of JSON

Readers for the parts of a JSON text that hold no other values. A reader takes the text that is left
and gives what it read and the text after it, which is never longer.
-/

namespace SiteManifest.Json

/-- A reader of a part of a text. -/
abbrev Reader (α : Type) := List Char → Except Fault (α × List Char)

namespace Read

/-- The text after blanks, tabs and line ends. -/
def skipBlanks (cs : List Char) : List Char :=
  cs.dropWhile fun c => c = ' ' || c = '\n' || c = '\t' || c = '\r'

/-! ## Words -/

/-- Reads the letters of a word that is already known from its first letter. -/
def word : List Char → List Char → Except Fault (List Char)
  | [], cs => .ok cs
  | _ :: _, [] => .error (.here .endInValue [])
  | w :: ws, c :: cs => if c = w then word ws cs else .error (.next .wordExpected (c :: cs))

/-! ## Strings -/

/-- The value of a hexadecimal digit. -/
def hexValue? (c : Char) : Option Nat :=
  if c.isDigit then some (c.toNat - 48)
  else if 'a' ≤ c && c ≤ 'f' then some (c.toNat - 87)
  else if 'A' ≤ c && c ≤ 'F' then some (c.toNat - 55)
  else none

/-- The number of four hexadecimal digits. -/
def hexQuad? (a b c d : Char) : Option Nat := do
  let a ← hexValue? a
  let b ← hexValue? b
  let c ← hexValue? c
  let d ← hexValue? d
  return ((a * 16 + b) * 16 + c) * 16 + d

/-- Reads four hexadecimal digits. Four bytes are taken before they are looked at. -/
def hexQuad (cs : List Char) : Except Fault (Nat × List Char) :=
  if byteCount (cs.take 4) < 4 then .error (.here .endInString [])
  else
    match cs with
    | a :: b :: c :: d :: rest =>
      match hexQuad? a b c d with
      | some n => .ok (n, rest)
      | none => .error ⟨.invalidEscape, cs, 4⟩
    | _ => .error ⟨.invalidEscape, cs, 4⟩

/-- Whether a 16-bit unit opens a surrogate pair. -/
def isHighSurrogate (n : Nat) : Bool := 0xd800 ≤ n && n ≤ 0xdbff

/-- Whether a 16-bit unit closes a surrogate pair. -/
def isLowSurrogate (n : Nat) : Bool := 0xdc00 ≤ n && n ≤ 0xdfff

/-- The code point of a surrogate pair. -/
def surrogatePair (high low : Nat) : Nat :=
  (high - 0xd800) * 0x400 + (low - 0xdc00) + 0x10000

/-- Reads a code point that is given by 16-bit units in hexadecimal, after a backslash and `u`. -/
def unicodeEscape (cs : List Char) : Except Fault (Char × List Char) := do
  let (n, rest) ← hexQuad cs
  if isLowSurrogate n then throw (.here .loneSurrogate rest)
  else if !isHighSurrogate n then return (.ofNat n, rest)
  else
    match rest with
    | [] => throw (.here .endInString [])
    | '\\' :: rest =>
      match rest with
      | [] => throw (.here .endInString [])
      | 'u' :: rest =>
        let (low, rest) ← hexQuad rest
        if isLowSurrogate low then return (.ofNat (surrogatePair n low), rest)
        else throw (.here .loneSurrogate rest)
      | _ => throw (.next .unfinishedSurrogatePair rest)
    | _ => throw (.next .unfinishedSurrogatePair rest)

/-- The character that a single letter after a backslash stands for. -/
def simpleEscape? (c : Char) : Option Char :=
  match c with
  | '"' => some '"'
  | '\\' => some '\\'
  | '/' => some '/'
  | 'b' => some '\x08'
  | 'f' => some '\x0c'
  | 'n' => some '\n'
  | 'r' => some '\r'
  | 't' => some '\t'
  | _ => none

/-- Reads an escape after its backslash. -/
def escape : List Char → Except Fault (Char × List Char)
  | [] => .error (.here .endInString [])
  | c :: rest =>
    if c = 'u' then unicodeEscape rest
    else
      match simpleEscape? c with
      | some e => .ok (e, rest)
      | none => .error (.next .invalidEscape (c :: rest))

theorem hexQuad_length {cs r : List Char} {n : Nat} (h : hexQuad cs = .ok (n, r)) :
    r.length < cs.length := by
  unfold hexQuad at h
  split at h
  · simp at h
  · split at h
    · split at h
      · simp only [Except.ok.injEq, Prod.mk.injEq] at h
        simp [← h.2]; omega
      · simp at h
    · simp at h

theorem unicodeEscape_length {cs r : List Char} {c : Char} (h : unicodeEscape cs = .ok (c, r)) :
    r.length < cs.length := by
  unfold unicodeEscape at h
  cases hq : hexQuad cs with
  | error e => simp [hq, bind, Except.bind] at h
  | ok p =>
    obtain ⟨n, rest⟩ := p
    have hl := hexQuad_length hq
    simp only [hq, bind, Except.bind] at h
    split at h
    · simp [throw, throwThe, MonadExceptOf.throw] at h
    split at h
    · simp only [pure, Except.pure, Except.ok.injEq, Prod.mk.injEq] at h
      rw [← h.2]; exact hl
    split at h
    · simp [throw, throwThe, MonadExceptOf.throw] at h
    · split at h
      · simp [throw, throwThe, MonadExceptOf.throw] at h
      · next rest2 =>
        cases hq2 : hexQuad rest2 with
        | error e => simp [hq2] at h
        | ok p2 =>
          obtain ⟨low, rest3⟩ := p2
          have hl2 := hexQuad_length hq2
          simp only [hq2] at h
          split at h
          · simp only [pure, Except.pure, Except.ok.injEq, Prod.mk.injEq] at h
            rw [← h.2]; simp at hl; omega
          · simp [throw, throwThe, MonadExceptOf.throw] at h
      · simp [throw, throwThe, MonadExceptOf.throw] at h
    · simp [throw, throwThe, MonadExceptOf.throw] at h

/-- An escape takes at least one character. -/
theorem escape_length {cs r : List Char} {c : Char} (h : escape cs = .ok (c, r)) :
    r.length < cs.length := by
  unfold escape at h
  split at h
  · simp at h
  · next c' rest =>
    split at h
    · have := unicodeEscape_length h
      simp; omega
    · split at h
      · simp only [Except.ok.injEq, Prod.mk.injEq] at h
        simp [← h.2]
      · simp at h

/-- Reads a string after its opening quote, to the closing one. -/
def stringBody (cs : List Char) : Except Fault (List Char × List Char) :=
  match cs with
  | [] => .error (.here .endInString [])
  | c :: rest =>
    if c = '"' then .ok ([], rest)
    else if c = '\\' then
      match h : escape rest with
      | .error f => .error f
      | .ok (e, after) =>
        have := escape_length h
        match stringBody after with
        | .error f => .error f
        | .ok (s, end_) => .ok (e :: s, end_)
    else if c.toNat < 0x20 then .error (.next .controlInString (c :: rest))
    else
      match stringBody rest with
      | .error f => .error f
      | .ok (s, end_) => .ok (c :: s, end_)
termination_by cs.length
decreasing_by
  · simp only [List.length_cons]; omega
  · simp

/-! ## Numbers -/

/-- The number that decimal digits spell. -/
def digitsValue (ds : List Char) : Nat :=
  ds.foldl (fun n d => 10 * n + (d.toNat - 48)) 0

/-- The longest run of digits whose number fits 64 bits, and the digits after it. -/
def fittingDigits (ds : List Char) : Nat × List Char :=
  go 0 ds
where
  /-- Takes digits on while the number fits. -/
  go (n : Nat) : List Char → Nat × List Char
    | [] => (n, [])
    | d :: ds =>
      let m := 10 * n + (d.toNat - 48)
      if m < Nat.pow 2 64 then go m ds else (n, d :: ds)

/-- The parts of a number: digits before and after the point, and an exponent of ten. -/
structure NumberParts where
  negative : Bool
  whole : List Char
  fraction : Option (List Char)
  exponent : Option (Bool × List Char)

/--
The floating point number nearest to `significand * 10 ^ exponent`, by way of the power of ten: the
significand and the power are rounded before they are multiplied or divided, and powers beyond
`10 ^ 308` divide in two steps.
-/
def scaledFloat (negative : Bool) (significand : Nat) (exponent : Int) :
    Option Decimal.Binary64 := do
  let f ← Decimal.Binary64.ofNat significand
  if f.isZero ∨ exponent < -616 then return .zero negative
  if 308 < exponent then none
  let r ←
    if 0 ≤ exponent then f.mul (← Decimal.Binary64.ofNat (Nat.pow 10 exponent.toNat))
    else if -308 ≤ exponent then down f (-exponent).toNat
    else down (← down f 308) (-exponent - 308).toNat
  return r.withSign negative
where
  /-- Divides by a power of ten. -/
  down (x : Decimal.Binary64) (k : Nat) : Option Decimal.Binary64 := do
    x.div (← Decimal.Binary64.ofNat (Nat.pow 10 k))

/-- The significand that a number keeps: digits are dropped once they pass 64 bits. -/
def NumberParts.significand (p : NumberParts) : Nat × Int :=
  let (n, dropped) := fittingDigits p.whole
  match p.fraction with
  | none => (n, dropped.length)
  | some ds =>
    let (m, kept) := extend n ds
    (m, (dropped.length : Int) - kept)
where
  /-- Takes digits of the fraction on while the number fits, and counts them. -/
  extend (n : Nat) : List Char → Nat × Nat
    | [] => (n, 0)
    | d :: ds =>
      let m := 10 * n + (d.toNat - 48)
      if m < Nat.pow 2 64 then
        let (r, k) := extend m ds
        (r, k + 1)
      else (n, 0)

/-- The greatest exponent of ten that is taken as it is written. -/
def maxExponent : Nat := Nat.pow 2 31 - 1

/-- The digits after the first one at which an exponent passes the greatest one. -/
def pastMaxExponent (ds : List Char) : Option (List Char) :=
  go 0 ds
where
  /-- Looks for the digit at which the number that started as `n` passes the bound. -/
  go (n : Nat) : List Char → Option (List Char)
    | [] => none
    | d :: ds =>
      let m := 10 * n + (d.toNat - 48)
      if maxExponent < m then some ds else go m ds

/-- The number of its parts; `none` if it is out of range. -/
def NumberParts.value (p : NumberParts) : Option Number :=
  let (m, shift) := p.significand
  match p.fraction, p.exponent with
  | none, none =>
    if 0 < shift then (scaledFloat p.negative m shift).map .float
    else if !p.negative then some (.integer m)
    else if m = 0 then some (.float (.zero true))
    else if m ≤ Nat.pow 2 63 then some (.integer (-m))
    else (scaledFloat true m 0).map .float
  | _, none => (scaledFloat p.negative m shift).map .float
  | _, some (down, ds) =>
    let e := min (digitsValue ds) maxExponent
    (scaledFloat p.negative m (if down then shift - e else shift + e)).map .float

/-- The sign of an exponent, which is written or not: whether it is a minus, and what follows it. -/
def exponentSign (cs : List Char) : Bool × List Char :=
  match cs with
  | '+' :: r => (false, r)
  | '-' :: r => (true, r)
  | r => (false, r)

/-- Reads the exponent of a number after its letter. -/
def exponentPart (cs : List Char) : Except Fault ((Bool × List Char) × List Char) :=
  let (down, digits) := exponentSign cs
  match digits with
  | [] => .error (.here .endInValue [])
  | d :: _ =>
    if d.isDigit then .ok ((down, digits.takeWhile Char.isDigit), digits.dropWhile Char.isDigit)
    else .error (.next .invalidNumber digits)

/-- Reads the digits after the point of a number. -/
def fractionPart (cs : List Char) : Except Fault (List Char × List Char) :=
  let ds := cs.takeWhile Char.isDigit
  if ds.isEmpty then
    .error (.next (if cs.isEmpty then .endInValue else .invalidNumber) cs)
  else .ok (ds, cs.dropWhile Char.isDigit)

/-- Reads the digits before the point of a number: a zero, or digits that do not start with one. -/
def wholePart (cs : List Char) : Except Fault (List Char × List Char) :=
  match cs with
  | [] => .error (.here .endInValue [])
  | d :: rest =>
    if d = '0' then
      if rest.head?.any Char.isDigit then .error (.next .invalidNumber rest) else .ok (['0'], rest)
    else if d.isDigit then .ok (cs.takeWhile Char.isDigit, cs.dropWhile Char.isDigit)
    else .error (.next .invalidNumber cs)

/-- Reads a point and the digits after it, if a point follows. -/
def fraction? (cs : List Char) : Except Fault (Option (List Char) × List Char) :=
  match cs with
  | '.' :: r => (fractionPart r).map fun (ds, r) => (some ds, r)
  | _ => .ok (none, cs)

/-- Reads the letter of an exponent and the exponent, if the letter follows. -/
def exponent? (cs : List Char) : Except Fault (Option (Bool × List Char) × List Char) :=
  match cs with
  | [] => .ok (none, [])
  | e :: r =>
    if e = 'e' ∨ e = 'E' then (exponentPart r).map fun (x, r) => (some x, r) else .ok (none, cs)

/-- Reads a number after its sign. -/
def number (negative : Bool) : Reader Number := fun cs => do
  let (whole, rest) ← wholePart cs
  let (fraction, rest) ← fraction? rest
  let (exponent, rest) ← exponent? rest
  let parts : NumberParts := ⟨negative, whole, fraction, exponent⟩
  match parts.value with
  | some n => return (n, rest)
  | none =>
    match exponent with
    | some (false, ds) => throw (.here .numberTooLarge ((pastMaxExponent ds).getD [] ++ rest))
    | _ => throw (.here .numberTooLarge rest)

end Read

end SiteManifest.Json
