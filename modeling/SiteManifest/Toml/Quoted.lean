import SiteManifest.Toml.Scalar

/-!
# Quoted texts of TOML

Texts between quotes. Between double quotes a backslash starts an escape, between single quotes every
character stands for itself. Three quotes open a text that may hold line breaks, of which the first one
does not count if it comes at once.
-/

namespace SiteManifest.Toml

/-- Whether a character may stand in a text or a comment: no control but the tab. -/
def isTextChar (c : Char) : Bool := c == '\t' || (0x20 ≤ c.toNat && c.toNat != 0x7f)

/-! ## Escapes -/

/-- How many hexadecimal digits follow the letter of an escape. -/
def hexLength? (c : Char) : Option Nat :=
  if c = 'x' then some 2 else if c = 'u' then some 4 else if c = 'U' then some 8 else none

/-- The character that a single letter after a backslash stands for. -/
def simpleEscape? (c : Char) : Option Char :=
  match c with
  | 'b' => some '\x08'
  | 't' => some '\t'
  | 'n' => some '\n'
  | 'f' => some '\x0c'
  | 'r' => some '\r'
  | 'e' => some '\x1b'
  | '"' => some '"'
  | '\\' => some '\\'
  | _ => none

/-- The character whose code point is spelled by a number of hexadecimal digits. -/
def codePoint? (length : Nat) (cs : List Char) : Option Char :=
  if cs.length = length ∧ cs.all (isDigitOf 16) then
    let n := cs.foldl (fun n d => 16 * n + digitValue d) 0
    if n.isValidChar then some (.ofNat n) else none
  else none

/-- Reads an escape after its backslash. -/
def escape : List Char → Option (Char × List Char)
  | [] => none
  | c :: rest =>
    match hexLength? c with
    | some n => (codePoint? n (rest.take n)).map fun x => (x, rest.drop n)
    | none => (simpleEscape? c).map fun x => (x, rest)

theorem escape_length {cs rest : List Char} {c : Char} (h : escape cs = some (c, rest)) :
    rest.length < cs.length := by
  cases cs with
  | nil => simp [escape] at h
  | cons d tail =>
    rw [escape] at h
    split at h <;>
      · simp only [Option.map_eq_some_iff, Prod.mk.injEq] at h
        obtain ⟨_, _, _, rfl⟩ := h
        simp only [List.length_drop, List.length_cons]
        omega

/-! ## Texts on one line -/

/-- Reads a text after its double quote. -/
def basicText : List Char → Option (List Char × List Char)
  | [] => none
  | '"' :: rest => some ([], rest)
  | '\\' :: rest =>
    match _h : escape rest with
    | none => none
    | some (c, rest) => (basicText rest).map fun (cs, rest) => (c :: cs, rest)
  | c :: rest =>
    if isTextChar c then (basicText rest).map fun (cs, rest) => (c :: cs, rest) else none
termination_by cs => cs.length
decreasing_by
  all_goals simp only [List.length_cons]
  · have := escape_length _h
    omega
  · omega

/-- Reads a text after its single quote. -/
def literalText : List Char → Option (List Char × List Char)
  | [] => none
  | '\x27' :: rest => some ([], rest)
  | c :: rest =>
    if isTextChar c then (literalText rest).map fun (cs, rest) => (c :: cs, rest) else none

/-! ## Texts on several lines -/

/-- The text after a line break, if there is one. -/
def lineBreak? : List Char → Option (List Char)
  | '\n' :: rest => some rest
  | '\r' :: '\n' :: rest => some rest
  | _ => none

/-- The text without a line break at its start. -/
def dropBreak (cs : List Char) : List Char := (lineBreak? cs).getD cs

/-- A blank or a tab. -/
def isSpace (c : Char) : Bool := c == ' ' || c == '\t'

/-- The text after blanks and line breaks. -/
def skipSpaces : List Char → List Char
  | [] => []
  | '\r' :: '\n' :: rest => skipSpaces rest
  | c :: rest => if isSpace c || c == '\n' then skipSpaces rest else c :: rest

/-- The text of the next line that is not empty, after a backslash that ends a line. -/
def foldedLine? (cs : List Char) : Option (List Char) :=
  (lineBreak? (cs.dropWhile isSpace)).map skipSpaces

theorem skipSpaces_length (cs : List Char) : (skipSpaces cs).length ≤ cs.length := by
  fun_induction skipSpaces cs with
  | case1 => exact Nat.le_refl _
  | case2 rest ih => simp only [List.length_cons]; omega
  | case3 c rest _ _ ih => simp only [List.length_cons]; omega
  | case4 c rest => exact Nat.le_refl _

theorem lineBreak?_length {cs rest : List Char} (h : lineBreak? cs = some rest) :
    rest.length < cs.length := by
  unfold lineBreak? at h
  split at h
  · simp only [Option.some.injEq] at h
    subst h
    simp
  · simp only [Option.some.injEq] at h
    subst h
    simp only [List.length_cons]
    omega
  · simp at h

theorem foldedLine?_length {cs rest : List Char} (h : foldedLine? cs = some rest) :
    rest.length < cs.length := by
  simp only [foldedLine?, Option.map_eq_some_iff] at h
  obtain ⟨line, hl, rfl⟩ := h
  have h1 := skipSpaces_length line
  have h2 := lineBreak?_length hl
  have h3 := (List.dropWhile_suffix (l := cs) isSpace).length_le
  omega

/-- Up to two quotes at the start of a text, and the text after them. They belong to a text on several
lines whose end they follow. -/
def extraQuotes (quote : Char) : List Char → List Char × List Char
  | a :: b :: rest =>
    if a = quote then if b = quote then ([a, b], rest) else ([a], b :: rest) else ([], a :: b :: rest)
  | [a] => if a = quote then ([a], []) else ([], [a])
  | [] => ([], [])

/-- Whether a text starts with three quotes. -/
def opensLong (quote : Char) (cs : List Char) : Bool := [quote, quote, quote].isPrefixOf cs

/-- Reads a text after three double quotes. -/
def longBasicText : List Char → Option (List Char × List Char)
  | [] => none
  | '\r' :: '\n' :: rest =>
    (longBasicText rest).map fun (cs, rest) => ('\r' :: '\n' :: cs, rest)
  | '\\' :: rest =>
    match _hf : foldedLine? rest with
    | some rest => longBasicText rest
    | none =>
      match _he : escape rest with
      | none => none
      | some (c, rest) => (longBasicText rest).map fun (cs, rest) => (c :: cs, rest)
  | c :: rest =>
    if opensLong '"' (c :: rest) then some (extraQuotes '"' (rest.drop 2))
    else if isTextChar c || c == '\n' then
      (longBasicText rest).map fun (cs, rest) => (c :: cs, rest)
    else none
termination_by cs => cs.length
decreasing_by
  all_goals simp only [List.length_cons]
  · omega
  · have := foldedLine?_length _hf
    omega
  · have := escape_length _he
    omega
  · omega

/-- Reads a text after three single quotes. -/
def longLiteralText : List Char → Option (List Char × List Char)
  | [] => none
  | '\r' :: '\n' :: rest =>
    (longLiteralText rest).map fun (cs, rest) => ('\r' :: '\n' :: cs, rest)
  | c :: rest =>
    if opensLong '\x27' (c :: rest) then some (extraQuotes '\x27' (rest.drop 2))
    else if isTextChar c || c == '\n' then
      (longLiteralText rest).map fun (cs, rest) => (c :: cs, rest)
    else none

/-- Reads a text from its quotes on, if it starts with a quote. -/
def readQuoted? (cs : List Char) : Option (Option (List Char × List Char)) :=
  if opensLong '"' cs then some (longBasicText (dropBreak (cs.drop 3)))
  else if opensLong '\x27' cs then some (longLiteralText (dropBreak (cs.drop 3)))
  else
    match cs with
    | '"' :: rest => some (basicText rest)
    | '\x27' :: rest => some (literalText rest)
    | _ => none

end SiteManifest.Toml
