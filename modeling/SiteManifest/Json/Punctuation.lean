import SiteManifest.Json.Lexeme

/-!
# Brackets, commas and colons of JSON

The parts of a JSON text that stand between values: where the next item of a list or the next key of
an object begins, and how a list or an object ends. Readers of whole values and readers of typed data
share them.
-/

namespace SiteManifest.Json.Read

/-- What follows inside brackets: another entry, which starts at a text, or the closing bracket. -/
inductive Next where
  | entry (start : List Char)
  | close (bracket : List Char)

/-- Looks for the next item of a list. No item stands before the first one. -/
def nextItem (first : Bool) (cs : List Char) : Except Fault Next :=
  match skipBlanks cs with
  | [] => .error (.here .endInList [])
  | c :: rest =>
    if c = ']' then .ok (.close (c :: rest))
    else if first then .ok (.entry (c :: rest))
    else if c = ',' then
      match skipBlanks rest with
      | [] => .error (.here .endInValue [])
      | d :: rest => if d = ']' then .error (.next .trailingComma (d :: rest)) else .ok (.entry (d :: rest))
    else .error (.next .listCommaOrEndExpected (c :: rest))

/-- The start of a key, which is a quote. -/
def keyStart (cs : List Char) : Except Fault Next :=
  if cs.head? = some '"' then .ok (.entry cs) else .error (.next .keyNotString cs)

/-- Looks for the next key of an object. No key stands before the first one. -/
def nextKey (first : Bool) (cs : List Char) : Except Fault Next :=
  match skipBlanks cs with
  | [] => .error (.here .endInObject [])
  | c :: rest =>
    if c = '\x7d' then .ok (.close (c :: rest))
    else if first then keyStart (c :: rest)
    else if c = ',' then
      match skipBlanks rest with
      | [] => .error (.here .endInValue [])
      | d :: rest =>
        if d = '\x7d' then .error (.next .trailingComma (d :: rest)) else keyStart (d :: rest)
    else .error (.next .objectCommaOrEndExpected (c :: rest))

/-- Reads a key, whose opening quote is at hand. -/
def key (cs : List Char) : Except Fault (String × List Char) := do
  let (s, rest) ← stringBody cs.tail
  return (.ofList s, rest)

/-- Reads the colon after a key. -/
def colon (cs : List Char) : Except Fault (List Char) :=
  match skipBlanks cs with
  | [] => .error (.here .endInObject [])
  | c :: rest => if c = ':' then .ok rest else .error (.next .colonExpected (c :: rest))

/-- Reads the closing bracket of a list whose entries are read. -/
def closeList (cs : List Char) : Except Fault (List Char) :=
  match skipBlanks cs with
  | [] => .error (.here .endInList [])
  | c :: rest =>
    if c = ']' then .ok rest
    else if c = ',' then
      let after := skipBlanks rest
      if after.head? = some ']' then .error (.next .trailingComma after)
      else .error (.next .trailingCharacters after)
    else .error (.next .trailingCharacters (c :: rest))

/-- Where the search for the closing bracket of a list stops. -/
def listEnd (cs : List Char) : List Char :=
  match skipBlanks cs with
  | [] => []
  | c :: rest => if c = ']' then rest else if c = ',' then skipBlanks rest else c :: rest

/-- Reads the closing bracket of an object whose entries are read. -/
def closeObject (cs : List Char) : Except Fault (List Char) :=
  match skipBlanks cs with
  | [] => .error (.here .endInObject [])
  | c :: rest =>
    if c = '\x7d' then .ok rest
    else if c = ',' then .error (.next .trailingComma (c :: rest))
    else .error (.next .trailingCharacters (c :: rest))

/-- Where the search for the closing bracket of an object stops. -/
def objectEnd (cs : List Char) : List Char :=
  match skipBlanks cs with
  | [] => []
  | c :: rest => if c = '\x7d' then rest else c :: rest

end SiteManifest.Json.Read
