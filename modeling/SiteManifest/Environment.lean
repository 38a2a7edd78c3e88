/-!
# Environments

The variables that are set, and their values.
-/

namespace SiteManifest

/-- Variables and their values, in the order in which they were first set. -/
structure Environment where
  settings : List (String × String)
  deriving DecidableEq, Repr

namespace Environment

/-- The environment in which no variable is set. -/
def empty : Environment := ⟨[]⟩

/-- What follows a name and an equals sign in the setting of a variable. -/
def valueAfter? (name : String) (setting : String × String) : Option String :=
  ((name ++ "=").toList.isPrefixOf? (setting.1 ++ "=" ++ setting.2).toList).map String.ofList

/-- The value of a variable. Nothing is set under the empty name, nor under one with a NUL. -/
def get? (e : Environment) (name : String) : Option String :=
  if name = "" ∨ name.toList.contains '\x00' then none
  else e.settings.findSome? (valueAfter? name)

/-- Sets a variable. One that is set already keeps its place. -/
def set (e : Environment) (name value : String) : Environment :=
  if e.settings.any (·.1 == name) then
    ⟨e.settings.map fun v => if v.1 == name then (name, value) else v⟩
  else ⟨e.settings ++ [(name, value)]⟩

/-- Removes a variable. -/
def unset (e : Environment) (name : String) : Environment :=
  ⟨e.settings.filter (·.1 != name)⟩

end Environment

end SiteManifest
