import SiteManifest.Log.Record
import SiteManifest.Text.Alphanumeric

/-!
# Log filters

Which events are written down. A filter is a list of directives; a directive sets a threshold for the
origins that start with a text, and of those that apply to an origin the longest one counts.
-/

namespace SiteManifest

/-- A rule of a filter. -/
structure LogDirective where
  /-- How the origins start that it applies to. Without it, it applies to all. -/
  origin : Option String
  /-- The number of the least important level that passes. -/
  threshold : Nat
  /-- Whether it applies inside of named spans only. Events stand in no span. -/
  spanned : Bool
  deriving DecidableEq, Repr

/-- A filter. -/
structure LogFilter where
  directives : List LogDirective
  deriving DecidableEq, Repr

namespace LogFilter

/-! ## Written filters -/

/-- The words for thresholds. -/
def thresholds : List (String × Nat) :=
  [("off", 0), ("error", 1), ("warn", 2), ("info", 3), ("debug", 4), ("trace", 5)]

/-- The number of the last threshold, which lets all events pass. -/
def everything : Nat := 5

/-- The threshold that a number spells. It may have a plus sign. -/
def numbered? (cs : List Char) : Option Nat :=
  let ds := if cs.head? = some '+' then cs.drop 1 else cs
  if ds.isEmpty || !ds.all Char.isDigit then none
  else
    let n := ds.foldl (fun n d => 10 * n + (d.toNat - 48)) 0
    if n ≤ everything then some n else none

/-- The threshold that a word or a number spells. -/
def threshold? (word : String) : Option Nat :=
  match numbered? word.toList with
  | some n => some n
  | none => thresholds.lookup (.ofList (word.toList.map Char.toLower))

/-- The threshold after an equals sign. Without one, all events pass. -/
def assigned? (cs : List Char) : Option Nat :=
  if cs.isEmpty then some everything else threshold? (.ofList cs)

/-- Whether a directive may start with a character. -/
def startsDirective (c : Char) : Bool :=
  Text.isAlphanumeric c || c == '-' || c == ':' || c == '_' || c == '['

/-- The directive that a text spells: a threshold, an origin, or both around an equals sign. -/
def directive? (cs : List Char) : Option LogDirective :=
  if !cs.head?.any startsDirective then none
  else
    let (head, tail) := cs.span fun c => c != '=' && c != '['
    match tail with
    | [] =>
      match threshold? (.ofList head) with
      | some n => some ⟨none, n, false⟩
      | none => some ⟨some (.ofList head), everything, false⟩
    | '[' :: span =>
      match (span.dropWhile (· != ']')).drop 1 with
      | [] => if span.contains ']' then some ⟨none, everything, true⟩ else none
      | '=' :: word => (assigned? word).map fun n => ⟨none, n, true⟩
      | _ => none
    | _ :: word => (assigned? word).map fun n => ⟨some (.ofList head), n, false⟩

/-- The filter that a text spells: directives between commas. Without any, only errors pass. -/
def ofText? (text : String) : Option LogFilter :=
  match ((text.toList.splitOn ',').filter (!·.isEmpty)).mapM directive? with
  | none => none
  | some [] => some ⟨[⟨none, Level.error.number, false⟩]⟩
  | some ds => some ⟨ds⟩

/-- The filter that lets a level pass, and all that are more important. -/
def upTo (level : Level) : LogFilter := ⟨[⟨none, level.number, false⟩]⟩

/-! ## Events -/

/-- Whether a directive applies to an origin. -/
def applies (origin : String) (d : LogDirective) : Bool :=
  !d.spanned && d.origin.all fun start => start.toList.isPrefixOf origin.toList

/-- How special a directive is. -/
def rank (d : LogDirective) : Nat := d.origin.elim 0 (·.length + 1)

/-- The more special one of two directives, or the later one. -/
def moreSpecial (d : Option LogDirective) (e : LogDirective) : Option LogDirective :=
  if d.any (rank e < rank ·) then d else some e

/-- Whether an event passes a filter. -/
def passes (f : LogFilter) (e : Event) : Bool :=
  ((f.directives.filter (applies e.origin)).foldl moreSpecial none).any
    fun d => e.level.number ≤ d.threshold

end LogFilter

end SiteManifest
