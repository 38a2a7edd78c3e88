import SiteManifest.Text.Decomposition

/-!
# Composed texts

Two texts that differ only in how marks are combined with letters have one composed form
(Normalization Form C): every character is decomposed, the marks are put in order, and the pieces are
composed again where a single character stands for them.
-/

namespace SiteManifest.Text

/-- The class of a mark in the order of marks. It is zero for what is never moved. -/
def combiningClass (c : Char) : Nat :=
  if c.toNat < 0x300 then 0
  else ((combiningClassTable.find? c.toNat).bind List.head?).getD 0

/-! ## Hangul -/

/-- The jamo of a Hangul syllable. -/
def hangulJamo (n : Nat) : List Char :=
  let i := n - 0xac00
  let lead := Char.ofNat (0x1100 + i / 588)
  let vowel := Char.ofNat (0x1161 + i % 588 / 28)
  if i % 28 = 0 then [lead, vowel] else [lead, vowel, .ofNat (0x11a7 + i % 28)]

/-- The Hangul syllable that two pieces compose. -/
def hangulSyllable? (a b : Nat) : Option Char :=
  if 0x1100 ≤ a ∧ a < 0x1113 ∧ 0x1161 ≤ b ∧ b < 0x1176 then
    some (.ofNat (0xac00 + (a - 0x1100) * 588 + (b - 0x1161) * 28))
  else if 0xac00 ≤ a ∧ a < 0xd7a4 ∧ (a - 0xac00) % 28 = 0 ∧ 0x11a7 < b ∧ b < 0x11c3 then
    some (.ofNat (a + (b - 0x11a7)))
  else none

/-! ## Decomposing -/

/-- The characters that a code point stands for, to a number of levels. -/
def decomposeCode : Nat → Nat → List Char
  | 0, n => [.ofNat n]
  | levels + 1, n =>
    if n < 0xc0 then [.ofNat n]
    else if 0xac00 ≤ n ∧ n < 0xd7a4 then hangulJamo n
    else
      match compositeTable.find? n with
      | some pieces => pieces.flatMap (decomposeCode levels)
      | none =>
        match replacementTable.find? n with
        | some pieces => pieces.map Char.ofNat
        | none => [.ofNat n]

/-- The characters that a character stands for. No composite is nested deeper than four levels. -/
def decompose (c : Char) : List Char := decomposeCode 4 c.toNat

/-- Puts a character in front of a text whose marks are in order. -/
def placeMark (c : Char) : List Char → List Char
  | [] => [c]
  | d :: rest =>
    if combiningClass d != 0 && combiningClass d < combiningClass c then d :: placeMark c rest
    else c :: d :: rest

/-- Puts the marks of a text in order. -/
def orderMarks (cs : List Char) : List Char := cs.foldr placeMark []

/-! ## Composing -/

/-- The character that two characters compose. -/
def composePair? (a b : Char) : Option Char :=
  if b.toNat < 0x300 then none
  else
    match hangulSyllable? a.toNat b.toNat with
    | some c => some c
    | none =>
      (List.find? (·.target == [a.toNat, b.toNat]) compositeTable).map fun e => .ofNat e.lo

/-- Composes a text after a starter and marks that could not be composed with it, the last first. -/
def composeFrom (starter : Char) (marks : List Char) : List Char → List Char
  | [] => starter :: marks.reverse
  | c :: rest =>
    let free :=
      match marks with
      | [] => true
      | m :: _ => combiningClass m < combiningClass c
    match if free then composePair? starter c else none with
    | some s => composeFrom s marks rest
    | none =>
      if combiningClass c = 0 then starter :: marks.reverse ++ composeFrom c [] rest
      else composeFrom starter (c :: marks) rest

/-- Composes a text whose characters are decomposed and whose marks are in order. -/
def compose : List Char → List Char
  | [] => []
  | c :: rest => composeFrom c [] rest

/-- The composed form of a text. -/
def normal (cs : List Char) : List Char :=
  if cs.all (·.toNat < 0xc0) then cs else compose (orderMarks (cs.flatMap decompose))

end SiteManifest.Text
