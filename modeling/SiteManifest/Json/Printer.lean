import SiteManifest.Json.Basic

/-!
# Printed JSON

Two layouts of a value: compact, without any blank, and spread, with one member or item a line and
two blanks for each level. Strings escape what JSON requires and nothing else.
-/

namespace SiteManifest.Json

/-- The hexadecimal digit of a number below 16, in lower case. -/
def hexDigit (n : Nat) : Char :=
  if n < 10 then .ofNat (48 + n) else .ofNat (87 + n)

/-- The form of a character inside a string. -/
def escapeChar (c : Char) : List Char :=
  if c = '"' then ['\\', '"']
  else if c = '\\' then ['\\', '\\']
  else if c = '\n' then ['\\', 'n']
  else if c = '\r' then ['\\', 'r']
  else if c = '\t' then ['\\', 't']
  else if c = '\x08' then ['\\', 'b']
  else if c = '\x0c' then ['\\', 'f']
  else if c.toNat < 0x20 then
    ['\\', 'u', '0', '0', hexDigit (c.toNat / 16), hexDigit (c.toNat % 16)]
  else [c]

/-- A string between its quotes. -/
def stringText (s : String) : List Char :=
  '"' :: s.toList.flatMap escapeChar ++ ['"']

/-- The text of an integer. -/
def intText (n : Int) : List Char :=
  if n < 0 then '-' :: Decimal.digitsOf n.natAbs else Decimal.digitsOf n.natAbs

/-- The text of a number. -/
def Number.text : Number → List Char
  | .integer n => intText n
  | .float x => x.text.toList

/-- A line break, and the blanks of a level. -/
def indent (level : Nat) : List Char :=
  '\n' :: List.replicate (2 * level) ' '

/-- Joins texts with a separator. -/
def joinWith (separator : List Char) : List (List Char) → List Char
  | [] => []
  | [x] => x
  | x :: xs => x ++ separator ++ joinWith separator xs

mutual

/-- The compact text of a value. -/
def compactText : Json → List Char
  | .null => ['n', 'u', 'l', 'l']
  | .bool true => ['t', 'r', 'u', 'e']
  | .bool false => ['f', 'a', 'l', 's', 'e']
  | .number n => n.text
  | .string s => stringText s
  | .array items => '[' :: joinWith [','] (compactItems items) ++ [']']
  | .object members => '\x7b' :: joinWith [','] (compactMembers members) ++ ['\x7d']

/-- The compact texts of the items of a list. -/
def compactItems : List Json → List (List Char)
  | [] => []
  | v :: vs => compactText v :: compactItems vs

/-- The compact texts of the members of an object. -/
def compactMembers : List (String × Json) → List (List Char)
  | [] => []
  | (k, v) :: ms => (stringText k ++ ':' :: compactText v) :: compactMembers ms

end

mutual

/-- The spread text of a value that stands at a level. Empty lists and objects stay closed. -/
def spreadText (level : Nat) : Json → List Char
  | .null => ['n', 'u', 'l', 'l']
  | .bool true => ['t', 'r', 'u', 'e']
  | .bool false => ['f', 'a', 'l', 's', 'e']
  | .number n => n.text
  | .string s => stringText s
  | .array [] => ['[', ']']
  | .array items =>
    '[' :: indent (level + 1) ++ joinWith (',' :: indent (level + 1)) (spreadItems (level + 1) items)
      ++ indent level ++ [']']
  | .object [] => ['\x7b', '\x7d']
  | .object members =>
    '\x7b' :: indent (level + 1)
      ++ joinWith (',' :: indent (level + 1)) (spreadMembers (level + 1) members)
      ++ indent level ++ ['\x7d']

/-- The spread texts of the items of a list. -/
def spreadItems (level : Nat) : List Json → List (List Char)
  | [] => []
  | v :: vs => spreadText level v :: spreadItems level vs

/-- The spread texts of the members of an object. -/
def spreadMembers (level : Nat) : List (String × Json) → List (List Char)
  | [] => []
  | (k, v) :: ms => (stringText k ++ ':' :: ' ' :: spreadText level v) :: spreadMembers level ms

end

/-- The two layouts. -/
inductive Layout where
  | compact
  | spread
  deriving DecidableEq, Repr

/-- The text of a value in a layout. -/
def print (layout : Layout) (v : Json) : String :=
  match layout with
  | .compact => .ofList (compactText v)
  | .spread => .ofList (spreadText 0 v)

end SiteManifest.Json
