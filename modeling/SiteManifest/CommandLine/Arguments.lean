import SiteManifest.Environment
import SiteManifest.FilePath
import SiteManifest.Json.Printer

/-!
# Arguments

What a command line asks for: a command with its options, or something about the program itself. Options
may be given in a long and in a short form, and short ones may be put together. Each may be given once
before the command, where it is allowed there, and once after it.
-/

namespace SiteManifest

/-- What is done with a site. -/
inductive Command where
  | check
  | dump (layout : Json.Layout)
  deriving DecidableEq, Repr

/-- What is asked for. -/
inductive Request where
  | run (command : Command) (config : Option FilePath) (verbose : Bool)
  | version
  | help
  deriving DecidableEq, Repr

namespace Arguments

/-- Why the options are not read on: the program is asked about itself, or is used in a wrong way. -/
inductive Stop where
  | version
  | help
  | misuse
  deriving DecidableEq, Repr

/-- Where options stand: before the command, or after it. -/
inductive Place where
  | front
  | check
  | dump
  deriving DecidableEq, Repr

/-- The options that are given so far. -/
structure Options where
  verbose : Bool
  compact : Bool
  config : Option FilePath
  deriving DecidableEq, Repr

/-- No options. -/
def Options.initial : Options := ⟨false, false, none⟩

/-- An option. -/
inductive Flag where
  | verbose
  | compact
  | version
  | help
  deriving DecidableEq, Repr

/-- Sets an option that has no value. It must not be set already. -/
def Options.set (o : Options) : Flag → Except Stop Options
  | .verbose => if o.verbose then .error .misuse else .ok { o with verbose := true }
  | .compact => if o.compact then .error .misuse else .ok { o with compact := true }
  | .version => .error .version
  | .help => .error .help

/-- Sets the path of the configuration. It must not be empty, nor be set already. -/
def Options.setConfig (o : Options) (path : String) : Except Stop Options :=
  if o.config.isSome || path.isEmpty then .error .misuse else .ok { o with config := some ⟨path⟩ }

/-! ## Names -/

/-- The option without a value that a long name stands for. -/
def longFlag? (place : Place) (name : String) : Option Flag :=
  if name = "verbose" then some .verbose
  else if name = "help" then some .help
  else if name = "version" ∧ place = .front then some .version
  else if name = "compact" ∧ place = .dump then some .compact
  else none

/-- The option without a value that a letter stands for. -/
def shortFlag? (place : Place) (c : Char) : Option Flag :=
  if c = 'v' then some .verbose
  else if c = 'h' then some .help
  else if c = 'V' ∧ place = .front then some .version
  else none

/-- Whether the path of the configuration may be given. -/
def Place.takesConfig (place : Place) : Bool := place != .front

/-! ## Options -/

/-- Reads an option in its long form, without the dashes. Also tells whether its value is missing. -/
def readLong (place : Place) (o : Options) (cs : List Char) : Except Stop (Options × Bool) :=
  let (name, tail) := cs.span (· != '=')
  if name = "config".toList ∧ place.takesConfig then
    if tail.isEmpty then .ok (o, true)
    else (o.setConfig (.ofList (tail.drop 1))).map fun o => (o, false)
  else
    match longFlag? place (.ofList name), tail with
    | some flag, [] => (o.set flag).map fun o => (o, false)
    | _, _ => .error .misuse

/-- Reads options in their short form, without the dash. Also tells whether a value is missing. -/
def readShort (place : Place) (o : Options) : List Char → Except Stop (Options × Bool)
  | [] => .ok (o, false)
  | c :: cs =>
    if c = 'c' ∧ place.takesConfig then
      if cs.isEmpty then .ok (o, true)
      else
        let path := if cs.head? = some '=' then cs.drop 1 else cs
        (o.setConfig (.ofList path)).map fun o => (o, false)
    else
      match shortFlag? place c with
      | some flag => (o.set flag).bind fun o => readShort place o cs
      | none => .error .misuse

/-- Whether an argument has the form of an option. -/
def isOption (argument : String) : Bool :=
  argument.toList.head? == some '-' && argument != "-"

/-- Reads options up to the first argument that is none, or to two dashes. With `awaiting`, the value of
the option before is missing. -/
def readOptions (place : Place) : Bool → Options → List String →
    Except Stop (Options × List String)
  | awaiting, o, [] => if awaiting then .error .misuse else .ok (o, [])
  | true, o, a :: rest =>
    if isOption a then .error .misuse
    else (o.setConfig a).bind fun o => readOptions place false o rest
  | false, o, a :: rest =>
    if !isOption a || a == "--" then .ok (o, a :: rest)
    else
      let found :=
        match a.toList with
        | '-' :: '-' :: cs => readLong place o cs
        | cs => readShort place o (cs.drop 1)
      found.bind fun (o, awaiting) => readOptions place awaiting o rest

/-! ## Commands -/

/-- The variable that names a configuration if no option does. -/
def configVariable : String := "DOCSITE_CONFIG"

/-- Fills in the path of the configuration from the environment. -/
def Options.complete (env : Environment) (o : Options) : Except Stop Options :=
  match o.config, env.get? configVariable with
  | none, some path => o.setConfig path
  | _, _ => .ok o

/-- The command that stands at a place, with its options. -/
def Place.command (place : Place) (o : Options) : Command :=
  if place = .dump then .dump (if o.compact then .compact else .spread) else .check

/-- Reads the options of a command. Nothing may follow them but two dashes. -/
def readCommand (env : Environment) (place : Place) (verbose : Bool) (args : List String) :
    Except Stop Request := do
  let (o, rest) ← readOptions place false .initial args
  if rest ≠ [] ∧ rest ≠ ["--"] then throw .misuse
  let o ← o.complete env
  return .run (place.command o) o.config (verbose || o.verbose)

/-- The commands, and what comes after them. -/
def places : List (String × Place) := [("check", .check), ("dump", .dump)]

/-- Reads a command line. -/
def readLine (env : Environment) (args : List String) : Except Stop Request := do
  let (o, rest) ← readOptions .front false .initial args
  match rest with
  | [] => throw .misuse
  | name :: args =>
    match places.lookup name with
    | some place => readCommand env place o.verbose args
    | none =>
      if name = "help" ∧ args.all (fun a => (places.lookup a).isSome) ∧ args.length ≤ 1 then
        throw .help
      else throw .misuse

end Arguments

/-- What a command line asks for. Nothing is asked for in a wrong way. -/
def Request.ofArguments? (env : Environment) (args : List String) : Option Request :=
  match Arguments.readLine env args with
  | .ok r => some r
  | .error .version => some .version
  | .error .help => some .help
  | .error .misuse => none

end SiteManifest
