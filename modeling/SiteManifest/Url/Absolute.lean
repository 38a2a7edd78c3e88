import SiteManifest.Url.Host

/-!
# Absolute addresses of the web

Which texts are URLs by themselves, without a page that they are relative to. Before a text is looked
at, it is cleaned: controls and blanks at its ends do not count, nor do tabs and line breaks anywhere.
-/

namespace SiteManifest.Url

/-! ## Cleaning -/

/-- A control or a blank of ASCII, which does not count at an end. -/
def isEdge (c : Char) : Bool := c.toNat ≤ 0x20

/-- A tab or a line break, which does not count anywhere. -/
def isBreak (c : Char) : Bool := c == '\t' || c == '\n' || c == '\r'

/-- A text without its edges. -/
def trimEdges (cs : List Char) : List Char :=
  ((cs.dropWhile isEdge).reverse.dropWhile isEdge).reverse

/-- What is looked at of a text. -/
def clean (s : String) : String :=
  .ofList ((trimEdges s.toList).filter fun c => !isBreak c)

/-! ## The scheme -/

/-- The kinds of schemes. -/
inductive SchemeKind where
  | file
  | web
  | other
  deriving DecidableEq, Repr

/-- The kind of a scheme in lower case. -/
def SchemeKind.ofName (name : String) : SchemeKind :=
  if name = "file" then .file
  else if ["http", "https", "ws", "wss", "ftp"].contains name then .web
  else .other

/-- Whether a scheme is one of those that take a backslash for a slash. -/
def SchemeKind.isSpecial : SchemeKind → Bool
  | .other => false
  | _ => true

/-- Whether a character may stand in a scheme. -/
def isSchemeChar (c : Char) : Bool := c.isAlphanum || c == '+' || c == '-' || c == '.'

/-- The scheme of a text, and what follows the colon. -/
def splitScheme? (cs : List Char) : Option (List Char × List Char) :=
  match cs.span isSchemeChar with
  | (name, ':' :: rest) => if name.head?.any Char.isAlpha then some (name, rest) else none
  | _ => none

/-! ## The authority -/

/-- A slash of a scheme. -/
def isSlash (kind : SchemeKind) (c : Char) : Bool :=
  c == '/' || (kind.isSpecial && c == '\\')

/-- Whether a character ends the authority. -/
def endsAuthority (kind : SchemeKind) (c : Char) : Bool :=
  isSlash kind c || c == '?' || c == '#'

/-- Splits an authority at its last `@`. -/
def splitUser (cs : List Char) : Option (List Char) × List Char :=
  match cs.reverse.span (· != '@') with
  | (_, []) => (none, cs)
  | (host, _ :: user) => (some user.reverse, host.reverse)

/-- Splits a text at the first colon that does not stand between brackets. -/
def splitPort (inside : Bool) : List Char → List Char × Option (List Char)
  | [] => ([], none)
  | c :: rest =>
    if c = ':' ∧ !inside then ([], some rest)
    else
      let (host, port) := splitPort (if c = '[' then true else if c = ']' then false else inside) rest
      (c :: host, port)

/-- Whether a text is a port. It may be empty, and a backslash ends it under any scheme. -/
def isPort (cs : List Char) : Bool :=
  let digits := cs.takeWhile (· != '\\')
  digits.all Char.isDigit && numberOf 10 digits < 65536

/-- Whether a host may be missing, given the user and what follows the authority: only together with
a port and a user, though a colon may stand for the user. A lone `@` must end the text. -/
def mayLackHost (user port : Option (List Char)) (rest : List Char) : Bool :=
  port.isNone && (user == none || user == some [':'] || (user == some [] && rest.isEmpty))

/-- Whether a text starts with an authority: a user, a host and a port. The schemes of the web need a
host. -/
def isAuthority (kind : SchemeKind) (cs : List Char) : Bool :=
  let (authority, rest) := cs.span fun c => !endsAuthority kind c
  let (user, place) := splitUser authority
  let (host, port) := splitPort false place
  if host.isEmpty then kind == .other && mayLackHost user port rest
  else (if kind.isSpecial then isWebHost host else isOpaqueHost host) && port.all isPort

/-- Whether a text is a drive letter, which is no host of a file. -/
def isDrive (cs : List Char) : Bool :=
  match cs with
  | [letter, mark] => letter.isAlpha && (mark == ':' || mark == '|')
  | _ => false

/-- Whether a text can follow the scheme of a file. -/
def isFileBody : List Char → Bool
  | a :: b :: rest =>
    if isSlash .file a && isSlash .file b then
      let host := rest.takeWhile fun c => !endsAuthority .file c
      host.isEmpty || isDrive host || isWebHost host
    else true
  | _ => true

/-- Whether a text can follow a scheme. -/
def isBody (kind : SchemeKind) (cs : List Char) : Bool :=
  match kind with
  | .file => isFileBody cs
  | .web => isAuthority .web (cs.dropWhile (isSlash .web))
  | .other =>
    match cs with
    | '/' :: '/' :: rest => isAuthority .other rest
    | _ => true

/-- Whether a text is a URL by itself. -/
def isAbsolute (s : String) : Bool :=
  match splitScheme? (clean s).toList with
  | none => false
  | some (name, rest) => isBody (.ofName (.ofList (name.map Char.toLower))) rest

end SiteManifest.Url
