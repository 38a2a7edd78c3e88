import SiteManifest.Yaml.Composition
import SiteManifest.Yaml.Tokens

/-!
# Documents of YAML

A text holds a number of documents. Each of them has a value, or is not well-formed; what comes after a
document that cannot be told from its end is a document that is not well-formed.
-/

namespace SiteManifest.Yaml

/-! ## Directives -/

/-- What the handles stand for that need not be declared. -/
def standardHandles : List (String × String) := [("!", "!"), ("!!", "tag:yaml.org,2002:")]

/-- The directives in front of a document, and the tokens after them. -/
def splitDirectives : List Token → List Directive × List Token
  | .directive d :: ts =>
    let (ds, rest) := splitDirectives ts
    (d :: ds, rest)
  | ts => ([], ts)

/-- Whether a directive gives a version. -/
def Directive.isVersion : Directive → Bool
  | .version .. => true
  | .tag .. => false

/-- Whether a version is known. -/
def Directive.isKnown : Directive → Bool
  | .version major minor => major == 1 && (minor == 1 || minor == 2)
  | .tag .. => true

/-- The handle that a directive declares. -/
def Directive.handle? : Directive → Option (String × String)
  | .version .. => none
  | .tag handle start => some (handle, start)

/-- What the handles stand for after directives. There is at most one version, and each handle is
declared at most once. -/
def handlesOf (ds : List Directive) : Option (List (String × String)) :=
  let declared := ds.filterMap Directive.handle?
  if ds.all Directive.isKnown && (ds.filter Directive.isVersion).length ≤ 1
      && decide (declared.map (·.1)).Nodup then
    some (declared ++ standardHandles)
  else none

/-! ## Documents -/

/-- Whether a token shows that a document has no content. -/
def endsContent : Option Token → Bool
  | none => true
  | some .documentStart => true
  | some .documentEnd => true
  | some (.directive _) => true
  | some _ => false

/-- Reads the content of a document. -/
def content (handles : List (String × String)) (ts : List Token) : Option (Node × List Token) :=
  ((Composer.node Node.maxDepth true false).run ⟨ts, [], handles⟩).map fun (n, s) => (n, s.tokens)

/-- Reads a document. Only the first one may go without the mark of its start. -/
def document (first : Bool) (ts : List Token) : Option (Node × List Token) :=
  match splitDirectives ts with
  | (ds, .documentStart :: rest) =>
    (handlesOf ds).bind fun handles =>
      if endsContent rest.head? then some (.empty, rest) else content handles rest
  | (ds, _) => if first && ds.isEmpty then content standardHandles ts else none

/-- Reads documents up to the end, or to the first one that is not well-formed. -/
def documents : Nat → Bool → List Token → List (Option Node)
  | 0, _, _ => []
  | steps + 1, first, ts =>
    let ts := if first then ts else ts.dropWhile (· == .documentEnd)
    if ts.isEmpty then []
    else
      match document first ts with
      | none => [none]
      | some (n, rest) => some n :: documents steps false rest

/-- The documents of a text: the value of each, or nothing for one that is not well-formed or whose
value cannot be told. -/
def outcomes (text : String) : List (Option Json) :=
  let ts := tokens text
  (documents (ts.length + 1) true ts).map fun n => n.bind Node.documentValue?

/-- The values of all documents of a text. -/
def ofText? (text : String) : Option (List Json) := (outcomes text).mapM id

end SiteManifest.Yaml
