import SiteManifest.Text.Unprintable

/-!
# Quoted text

How a message shows a text that it did not write: between double quotes, on one line, with every
character that would not show spelled out. No two texts have the same quoted form.
-/

namespace SiteManifest.Text

/-- A code point in hexadecimal between braces, after a backslash and `u`. -/
def codePointEscape (c : Char) : List Char :=
  '\\' :: 'u' :: '\x7b' :: Nat.toDigits 16 c.toNat ++ ['\x7d']

/-- The quoted form of one character. -/
def quoteChar (c : Char) : List Char :=
  if c = '\x00' then ['\\', '0']
  else if c = '\t' then ['\\', 't']
  else if c = '\r' then ['\\', 'r']
  else if c = '\n' then ['\\', 'n']
  else if c = '\\' then ['\\', '\\']
  else if c = '"' then ['\\', '"']
  else if isUnprintable c then codePointEscape c
  else [c]

/-- A text between double quotes, each character in its quoted form. -/
def quote (s : String) : String :=
  .ofList ('"' :: s.toList.flatMap quoteChar ++ ['"'])

end SiteManifest.Text
