import SiteManifest.Draft
import SiteManifest.Environment
import SiteManifest.LoadError
import SiteManifest.Text.Alphanumeric

/-!
# Expansion

References to variables in a text. `$` and a name between braces stands for the value of the variable;
after the name, `:-` and a fallback may follow. In a text that holds a reference with braces, a name
may also follow the `$` without braces, and `$$` stands for `$`. Values are not looked at again.
-/

namespace SiteManifest

namespace Expansion

/-- A reference between braces. -/
structure Reference where
  name : String
  fallback : Option String
  deriving DecidableEq, Repr

/-- Splits a text at the first place where a pattern starts. -/
def splitAt? (pattern : List Char) : List Char → Option (List Char × List Char)
  | [] => none
  | c :: cs =>
    match pattern.isPrefixOf? (c :: cs) with
    | some after => some ([], after)
    | none => (splitAt? pattern cs).map fun (before, after) => (c :: before, after)

theorem isPrefixOf?_length {pattern cs after : List Char}
    (h : pattern.isPrefixOf? cs = some after) : after.length ≤ cs.length := by
  induction pattern generalizing cs with
  | nil =>
    cases h
    exact Nat.le_refl _
  | cons p ps ih =>
    cases cs with
    | nil => cases h
    | cons c cs =>
      have hsplit : (if p == c then ps.isPrefixOf? cs else none) = some after := h
      split at hsplit
      · exact Nat.le_succ_of_le (ih hsplit)
      · cases hsplit

theorem splitAt?_length {pattern cs before after : List Char}
    (h : splitAt? pattern cs = some (before, after)) : after.length ≤ cs.length := by
  induction cs generalizing before with
  | nil => simp [splitAt?] at h
  | cons c cs ih =>
    rw [splitAt?] at h
    split at h
    · next ha =>
      simp only [Option.some.injEq, Prod.mk.injEq] at h
      rw [← h.2]
      exact isPrefixOf?_length ha
    · simp only [Option.map_eq_some_iff, Prod.mk.injEq, Prod.exists] at h
      obtain ⟨b, a, hb, -, rfl⟩ := h
      exact Nat.le_succ_of_le (ih hb)

/-- What stands between the braces of a reference. A mark of a fallback that stands where the name
should be belongs to the name. -/
def Reference.ofBody (body : List Char) : Reference :=
  match splitAt? [':', '-'] body with
  | some (c :: name, fallback) => ⟨.ofList (c :: name), some (.ofList fallback)⟩
  | _ => ⟨.ofList body, none⟩

/-- The text that a reference stands for, or the name of the variable that is not set. -/
def Reference.value (env : Environment) (r : Reference) : Except String String :=
  match env.get? r.name, r.fallback with
  | some v, _ => .ok v
  | none, some v => .ok v
  | none, none => .error r.name

/-- Whether a character may stand in a name without braces. -/
def isNameChar (c : Char) : Bool := Text.isAlphanumeric c || c == '_'

/-- Expands the references of a text. The failure is the name of the first variable that is not set. -/
def expandChars (env : Environment) : List Char → Except String (List Char)
  | [] => .ok []
  | '$' :: '\x7b' :: cs =>
    match _h : splitAt? ['\x7d'] cs with
    | none => (expandChars env cs).map fun tail => '$' :: '\x7b' :: tail
    | some (body, after) => do
      let value ← (Reference.ofBody body).value env
      let tail ← expandChars env after
      return value.toList ++ tail
  | '$' :: '$' :: cs => (expandChars env cs).map ('$' :: ·)
  | '$' :: c :: cs =>
    if isNameChar c then do
      let value ← (Reference.mk (.ofList (c :: cs.takeWhile isNameChar)) none).value env
      let tail ← expandChars env (cs.dropWhile isNameChar)
      return value.toList ++ tail
    else (expandChars env (c :: cs)).map ('$' :: ·)
  | c :: cs => (expandChars env cs).map (c :: ·)
termination_by cs => cs.length
decreasing_by
  all_goals simp only [List.length_cons]
  all_goals try omega
  · have := splitAt?_length _h
    omega
  · have := (List.dropWhile_suffix (l := cs) isNameChar).length_le
    omega

/-- Whether a text holds the start of a reference with braces. -/
def mentions (text : String) : Bool := (splitAt? ['$', '\x7b'] text.toList).isSome

/-- Expands the references of a text, if it holds one with braces. -/
def expand (env : Environment) (text : String) : Except String String :=
  if mentions text then (expandChars env text.toList).map String.ofList else .ok text

/-- Expands the text of a field, if it is given. -/
def field (env : Environment) (name : String) (text : Option String) :
    Except LoadError (Option String) :=
  match text with
  | none => .ok none
  | some text =>
    match expand env text with
    | .ok text => .ok (some text)
    | .error unset => .error (.unsetVariable (.top name) unset)

/-- Expands the three texts of a site. -/
def site (env : Environment) (d : Draft.Site) : Except LoadError Draft.Site := do
  let title ← field env "title" d.title
  let description ← field env "description" d.description
  let basePath ← field env "basePath" d.basePath
  return ⟨title, description, basePath, d.theme⟩

end Expansion

end SiteManifest
