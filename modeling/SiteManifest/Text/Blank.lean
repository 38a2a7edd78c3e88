/-!
# Blank text

Which characters count as white space and as controls, and what it means for a text to be blank
or padded. The classes are those of Unicode (`White_Space`, category `Cc`).
-/

namespace SiteManifest.Text

/-- The Unicode property `White_Space`. -/
def isBlankChar (c : Char) : Bool :=
  let n := c.toNat
  (0x09 ≤ n && n ≤ 0x0d) || n == 0x20 || n == 0x85 || n == 0xa0 || n == 0x1680
    || (0x2000 ≤ n && n ≤ 0x200a) || n == 0x2028 || n == 0x2029 || n == 0x202f
    || n == 0x205f || n == 0x3000

/-- The Unicode category `Cc`. -/
def isControlChar (c : Char) : Bool :=
  c.toNat < 0x20 || (0x7f ≤ c.toNat && c.toNat ≤ 0x9f)

/-- A text is blank if it holds nothing but white space; the empty text is blank. -/
def isBlank (s : String) : Bool :=
  s.toList.all isBlankChar

/-- A character that a reader of the text would not see at its edge. -/
def isPadding (c : Char) : Bool :=
  isBlankChar c || isControlChar c

/-- A text is padded if it starts or ends with white space or a control. -/
def isPadded (s : String) : Bool :=
  s.toList.head?.any isPadding || s.toList.getLast?.any isPadding

end SiteManifest.Text
