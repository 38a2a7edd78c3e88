import SiteManifest.Text.RangeTable

/-!
# Punycode (RFC 3492)

Reads labels in which other characters are spelled with ASCII letters and digits. The letters before
the last hyphen stand for themselves. What follows is a sequence of numbers, each of which says which
character comes in next, and where.

The loops end because every number takes at least one character of the text.
-/

namespace SiteManifest.Idna.Punycode

/-- The value of a digit: letters of either case, then the decimal digits. -/
def digitValue (c : Char) : Option Nat :=
  let n := c.toNat
  if 0x61 ≤ n && n ≤ 0x7a then some (n - 0x61)
  else if 0x41 ≤ n && n ≤ 0x5a then some (n - 0x41)
  else if 0x30 ≤ n && n ≤ 0x39 then some (n - 0x30 + 26)
  else none

/-- The least value of a digit at a place that is not the last of its number. -/
def threshold (place bias : Nat) : Nat :=
  if place ≤ bias then 1 else if bias + 26 ≤ place then 26 else place - bias

/-- Divides until the quotient is small, and counts. -/
def shrink (delta place : Nat) : Nat × Nat :=
  if 455 < delta then shrink (delta / 35) (place + 36) else (delta, place)
termination_by delta
decreasing_by exact Nat.div_lt_self (by omega) (by omega)

/-- The bias after a number. -/
def adapt (delta points : Nat) (first : Bool) : Nat :=
  let start := if first then delta / 700 else delta / 2
  let (small, place) := shrink (start + start / points) 0
  place + 36 * small / (small + 38)

/-- The largest number that is read. -/
def maxNumber : Nat := 0xffffffff

/-- Reads the digits of a number, and adds it. -/
def decodeNumber (bias : Nat) : List Char → Nat → Nat → Nat → Option (Nat × List Char)
  | [], _, _, _ => none
  | c :: rest, place, weight, sum =>
    match digitValue c with
    | none => none
    | some d =>
      let t := threshold place bias
      if maxNumber < sum + d * weight then none
      else if d < t then some (sum + d * weight, rest)
      else if maxNumber < weight * (36 - t) then none
      else decodeNumber bias rest (place + 36) (weight * (36 - t)) (sum + d * weight)

theorem decodeNumber_length (bias : Nat) {cs : List Char} {place weight sum : Nat}
    {r : Nat × List Char} (h : decodeNumber bias cs place weight sum = some r) :
    r.2.length < cs.length := by
  induction cs generalizing place weight sum with
  | nil => simp [decodeNumber] at h
  | cons c rest ih =>
    rw [decodeNumber] at h
    split at h
    · simp at h
    · dsimp only at h
      split at h
      · simp at h
      · split at h
        · rw [← Option.some.inj h]
          simp
        · split at h
          · simp at h
          · have := ih h
            simp only [List.length_cons]
            omega

/-- Puts in one character for each number. -/
def decodeFrom (bias code index : Nat) (out : List Char) : List Char → Option (List Char)
  | [] => some out
  | c :: rest =>
    match _h : decodeNumber bias (c :: rest) 36 1 index with
    | none => none
    | some (sum, left) =>
      let points := out.length + 1
      let code' := code + sum / points
      if code'.isValidChar then
        let place := sum % points
        decodeFrom (adapt (sum - index) points (index == 0)) code' (place + 1)
          (out.take place ++ .ofNat code' :: out.drop place) left
      else none
termination_by cs => cs.length
decreasing_by
  have := decodeNumber_length bias _h
  simpa using this

/-- The text that a label spells, given without its mark. -/
def decode (cs : List Char) : Option (List Char) :=
  match cs.reverse.span (· != '-') with
  | (_, []) => decodeFrom 72 128 0 [] cs
  | (_, [_]) => none
  | (numbers, _ :: letters) =>
    if letters.all (·.toNat < 0x80) then
      decodeFrom 72 128 0 (letters.reverse.map Char.toLower) numbers.reverse
    else none

end SiteManifest.Idna.Punycode
