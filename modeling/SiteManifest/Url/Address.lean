/-!
# Numeric addresses

The hosts that are numbers and no names: addresses of 32 bits, which have up to four parts between
dots, and addresses of 128 bits, which have eight groups between colons.
-/

namespace SiteManifest.Url

/-! ## Numbers -/

/-- Whether a character is a digit of a base up to sixteen. -/
def isDigitOf (base : Nat) (c : Char) : Bool :=
  if c.isDigit then c.toNat - 48 < base
  else base == 16 && (('a' ≤ c && c ≤ 'f') || ('A' ≤ c && c ≤ 'F'))

/-- The number that digits of a base spell. -/
def numberOf (base : Nat) (cs : List Char) : Nat :=
  cs.foldl (fun n c => base * n + (if c.isDigit then c.toNat - 48 else (c.toNat - 55) % 32)) 0

/-! ## Addresses of 32 bits -/

/-- The base that a part is written in, and its digits. -/
def partDigits (cs : List Char) : Nat × List Char :=
  match cs with
  | '0' :: 'x' :: rest => (16, rest)
  | '0' :: 'X' :: rest => (16, rest)
  | '0' :: c :: rest => (8, c :: rest)
  | cs => (10, cs)

/-- The number that a part stands for. A mark of the base without any digit stands for zero. -/
def part? (cs : List Char) : Option Nat :=
  let (base, digits) := partDigits cs
  if !cs.isEmpty && digits.all (isDigitOf base) then some (numberOf base digits) else none

/-- The parts of a name. A dot at its end makes no part. -/
def parts (name : List Char) : List (List Char) :=
  let all := name.splitOn '.'
  if all.getLast? = some [] then all.dropLast else all

/-- Whether a name has to be an address, since its last part is a number. -/
def endsInNumber (name : List Char) : Bool :=
  match (parts name).getLast? with
  | none => false
  | some last => (!last.isEmpty && last.all Char.isDigit) || (part? last).isSome

/-- Whether a name is an address: every part but the last one is a byte, and the last one fills what
is left of the four bytes. -/
def isAddress (name : List Char) : Bool :=
  match (parts name).mapM part? with
  | none => false
  | some numbers =>
    match numbers.getLast? with
    | none => false
    | some last =>
      numbers.length ≤ 4 && numbers.dropLast.all (· < 256)
        && last < Nat.pow 256 (5 - numbers.length)

/-! ## Addresses of 128 bits -/

/-- Whether a text is a decimal number below 256 without a leading zero. -/
def isDecimalByte (cs : List Char) : Bool :=
  !cs.isEmpty && cs.all Char.isDigit && (cs.length == 1 || cs.head? != some '0')
    && numberOf 10 cs < 256

/-- Whether a text is four bytes between dots. -/
def isDotted (cs : List Char) : Bool :=
  let bytes := cs.splitOn '.'
  bytes.length == 4 && bytes.all isDecimalByte

/-- Whether a text is one to four hexadecimal digits. -/
def isGroup (cs : List Char) : Bool :=
  !cs.isEmpty && cs.length ≤ 4 && cs.all (isDigitOf 16)

/-- How many groups a list of pieces gives. Four bytes between dots may take the place of the last two
groups of an address. -/
def groupCount? (last : Bool) : List (List Char) → Option Nat
  | [] => some 0
  | [p] => if isGroup p then some 1 else if last && isDotted p then some 2 else none
  | p :: ps => if isGroup p then (groupCount? last ps).map (· + 1) else none

/-- The pieces of a text between colons. The empty text has none. -/
def pieces (cs : List Char) : List (List Char) :=
  if cs.isEmpty then [] else cs.splitOn ':'

/-- Splits a text at its first double colon. -/
def splitGap? : List Char → Option (List Char × List Char)
  | [] => none
  | c :: rest =>
    if c = ':' ∧ rest.head? = some ':' then some ([], rest.tail)
    else (splitGap? rest).map fun (before, after) => (c :: before, after)

/-- Whether a text is an address of eight groups. A double colon stands for at least one of them. -/
def isLongAddress (cs : List Char) : Bool :=
  match splitGap? cs with
  | none => groupCount? true (pieces cs) == some 8
  | some (before, after) =>
    match groupCount? false (pieces before), groupCount? true (pieces after) with
    | some m, some n => m + n ≤ 7
    | _, _ => false

end SiteManifest.Url
