import SiteManifest.Shape.Mismatch

/-!
# Faults of a JSON text

What is wrong with a text that should be JSON, and where. A place is the text that is left at the
fault, together with a number of bytes beyond its start; lines and columns count from the text as a
whole. Columns count bytes of UTF-8 from the last line feed, which itself ends column zero.
-/

namespace SiteManifest.Json

/-- What is wrong with a text: it is no JSON, or it is JSON of another shape than wanted. -/
inductive Problem where
  | endInValue
  | endInString
  | endInList
  | endInObject
  | valueExpected
  | wordExpected
  | colonExpected
  | listCommaOrEndExpected
  | objectCommaOrEndExpected
  | trailingCharacters
  | trailingComma
  | keyNotString
  | invalidNumber
  | numberTooLarge
  | invalidEscape
  | controlInString
  | unfinishedSurrogatePair
  | loneSurrogate
  | tooDeep
  | mismatch (m : Shape.Mismatch)
  deriving DecidableEq, Repr

/-- The words for a problem. -/
def Problem.message : Problem → String
  | .endInValue => "EOF while parsing a value"
  | .endInString => "EOF while parsing a string"
  | .endInList => "EOF while parsing a list"
  | .endInObject => "EOF while parsing an object"
  | .valueExpected => "expected value"
  | .wordExpected => "expected ident"
  | .colonExpected => "expected \x60:\x60"
  | .listCommaOrEndExpected => "expected \x60,\x60 or \x60]\x60"
  | .objectCommaOrEndExpected => "expected \x60,\x60 or \x60\x7d\x60"
  | .trailingCharacters => "trailing characters"
  | .trailingComma => "trailing comma"
  | .keyNotString => "key must be a string"
  | .invalidNumber => "invalid number"
  | .numberTooLarge => "number out of range"
  | .invalidEscape => "invalid escape"
  | .controlInString => "control character (\\u0000-\\u001F) found while parsing a string"
  | .unfinishedSurrogatePair => "unexpected end of hex escape"
  | .loneSurrogate => "lone leading surrogate in hex escape"
  | .tooDeep => "recursion limit exceeded"
  | .mismatch m => m.message

/-- A problem, and its place: the text that is left, and how many bytes further it is noticed. -/
structure Fault where
  problem : Problem
  rest : List Char
  ahead : Nat
  deriving DecidableEq, Repr

namespace Fault

/-- A problem at the start of the text that is left. -/
def here (problem : Problem) (rest : List Char) : Fault := ⟨problem, rest, 0⟩

/-- A problem with the first byte of the text that is left; at its end, a problem there. -/
def next (problem : Problem) (rest : List Char) : Fault := ⟨problem, rest, 1⟩

end Fault

/-- How many bytes a text has in UTF-8. -/
def byteCount (cs : List Char) : Nat :=
  cs.foldl (fun n c => n + c.utf8Size) 0

/-- A line, counted from one, and a column, counted in bytes from zero. -/
structure Position where
  line : Nat
  column : Nat
  deriving DecidableEq, Repr

/-- The position a number of bytes further on in a text, at most at its end. -/
def Position.advance (p : Position) (bytes : Nat) : List Char → Position
  | [] => p
  | c :: cs =>
    if bytes < c.utf8Size then { p with column := p.column + bytes }
    else if c = '\n' then advance ⟨p.line + 1, 0⟩ (bytes - 1) cs
    else advance ⟨p.line, p.column + c.utf8Size⟩ (bytes - c.utf8Size) cs

/-- Where a fault lies in the text it was found in. -/
def Fault.position (f : Fault) (text : List Char) : Position :=
  Position.advance ⟨1, 0⟩ (byteCount text - byteCount f.rest + f.ahead) text

/-- A problem, and the position in the text where it is noticed. -/
structure Report where
  problem : Problem
  position : Position
  deriving DecidableEq, Repr

/-- The report of a fault of a text. -/
def Fault.report (f : Fault) (text : String) : Report := ⟨f.problem, f.position text.toList⟩

/-- The text of a report. -/
def Report.message (r : Report) : String :=
  r.problem.message ++ " at line " ++ Decimal.natText r.position.line
    ++ " column " ++ Decimal.natText r.position.column

end SiteManifest.Json
