import SiteManifest.Json.Punctuation

/-!
# Skipping JSON

A value that nobody asks for is skipped. Its brackets, commas and keys must be in order and its words
and strings complete, but numbers may be of any size, surrogates need no partner, and lists and
objects may be nested to any depth.
-/

namespace SiteManifest.Json.Read

/-- Skips an escape after its backslash. -/
def skipEscape : List Char → Except Fault (List Char)
  | [] => .error (.here .endInString [])
  | c :: rest =>
    if c = 'u' then (hexQuad rest).map (·.2)
    else if (simpleEscape? c).isSome then .ok rest
    else .error (.next .invalidEscape (c :: rest))

theorem skipEscape_length {cs r : List Char} (h : skipEscape cs = .ok r) :
    r.length < cs.length := by
  unfold skipEscape at h
  split at h
  · simp at h
  · split at h
    · rename_i c rest _
      cases hq : hexQuad rest with
      | error e => simp [hq, Except.map] at h
      | ok p =>
        have := hexQuad_length hq
        simp only [hq, Except.map, Except.ok.injEq] at h
        rw [← h]; simp; omega
    · split at h
      · simp only [Except.ok.injEq] at h
        simp [← h]
      · simp at h

/-- Skips a string after its opening quote. -/
def skipString (cs : List Char) : Except Fault (List Char) :=
  match cs with
  | [] => .error (.here .endInString [])
  | c :: rest =>
    if c = '"' then .ok rest
    else if c = '\\' then
      match h : skipEscape rest with
      | .error f => .error f
      | .ok after =>
        have := skipEscape_length h
        skipString after
    else if c.toNat < 0x20 then .error (.here .controlInString (c :: rest))
    else skipString rest
termination_by cs.length
decreasing_by
  · simp only [List.length_cons]; omega
  · simp

/-- Skips the exponent of a number after its letter. -/
def skipExponent (cs : List Char) : Except Fault (List Char) :=
  let digits := if cs.head? = some '+' ∨ cs.head? = some '-' then cs.tail else cs
  if digits.head?.any Char.isDigit then .ok (digits.dropWhile Char.isDigit)
  else .error (.next .invalidNumber digits)

/-- Skips the rest of a number whose digits before the point are read. -/
def skipNumberTail (cs : List Char) : Except Fault (List Char) :=
  match cs with
  | [] => .ok []
  | c :: rest =>
    if c = '.' then
      let after := rest.dropWhile Char.isDigit
      if rest.head?.any Char.isDigit then
        match after with
        | e :: r => if e = 'e' ∨ e = 'E' then skipExponent r else .ok after
        | [] => .ok []
      else .error (.next .invalidNumber rest)
    else if c = 'e' ∨ c = 'E' then skipExponent rest
    else .ok cs

/-- Skips a number after its sign. -/
def skipNumber (cs : List Char) : Except Fault (List Char) :=
  match cs with
  | [] => .error (.here .invalidNumber [])
  | d :: rest =>
    if d = '0' then
      if rest.head?.any Char.isDigit then .error (.next .invalidNumber rest) else skipNumberTail rest
    else if d.isDigit then skipNumberTail (cs.dropWhile Char.isDigit)
    else .error (.next .invalidNumber cs)

/-- The brackets that are open while a value is skipped. -/
inductive Bracket where
  | list
  | object
  deriving DecidableEq, Repr

namespace Bracket

/-- The character that closes a bracket. -/
def closer : Bracket → Char
  | .list => ']'
  | .object => '\x7d'

/-- The text ends inside the bracket. -/
def endProblem : Bracket → Problem
  | .list => .endInList
  | .object => .endInObject

/-- Neither a comma nor the end of the bracket follows. -/
def commaProblem : Bracket → Problem
  | .list => .listCommaOrEndExpected
  | .object => .objectCommaOrEndExpected

end Bracket

/-- What is skipped next: a value, or what follows in a bracket, with a comma or without one. -/
inductive Skipping where
  | value
  | inside (comma : Bool)

/-- Skips the key of an entry and its colon, if the bracket is an object. -/
def skipKey (b : Bracket) (cs : List Char) : Except Fault (List Char) :=
  match b with
  | .list => .ok cs
  | .object =>
    match skipBlanks cs with
    | [] => .error (.here .endInObject [])
    | c :: rest =>
      if c = '"' then do colon (← skipString rest) else .error (.next .keyNotString (c :: rest))

/-- Skips what is neither a list nor an object. `none` means that a bracket opens here. -/
def skipScalar (c : Char) (rest : List Char) : Except Fault (Option (List Char)) := do
  if c = 'n' then return some (← word ['u', 'l', 'l'] rest)
  else if c = 't' then return some (← word ['r', 'u', 'e'] rest)
  else if c = 'f' then return some (← word ['a', 'l', 's', 'e'] rest)
  else if c = '-' then return some (← skipNumber rest)
  else if c.isDigit then return some (← skipNumber (c :: rest))
  else if c = '"' then return some (← skipString rest)
  else if c = '[' ∨ c = '\x7b' then return none
  else throw (.next .valueExpected (c :: rest))

/-- Skips on until all open brackets are closed. -/
def skipOn : Nat → Skipping → List Bracket → List Char → Except Fault (List Char)
  | 0, _, _, cs => .error (.here .endInValue cs)
  | steps + 1, .value, open_, cs => do
    match skipBlanks cs with
    | [] => throw (.here .endInValue [])
    | c :: rest =>
      match ← skipScalar c rest with
      | none => skipOn steps (.inside false) ((if c = '[' then .list else .object) :: open_) rest
      | some rest => if open_.isEmpty then return rest else skipOn steps (.inside true) open_ rest
  | _ + 1, .inside _, [], cs => .ok cs
  | steps + 1, .inside comma, b :: open_, cs => do
    match skipBlanks cs with
    | [] => throw (.here b.endProblem [])
    | c :: rest =>
      if c = b.closer then
        if open_.isEmpty then return rest else skipOn steps (.inside true) open_ rest
      else if !comma then skipOn steps .value (b :: open_) (← skipKey b (c :: rest))
      else if c = ',' then skipOn steps .value (b :: open_) (← skipKey b rest)
      else throw (.next b.commaProblem (c :: rest))

/-- Skips a value. -/
def skipValue (steps : Nat) (cs : List Char) : Except Fault (List Char) :=
  skipOn steps .value [] cs

end SiteManifest.Json.Read
