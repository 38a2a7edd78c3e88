import SiteManifest.CommandLine.Run
import Std.Time.DateTime.Timestamp

/-!
# The program

The command line program: it looks at the files that a run may need, at the environment and at the clock,
and writes what the run leaves behind.
-/

namespace SiteManifest

/-! ## Environment -/

/-- The setting of a variable between its name and its value. -/
def settingOf (cs : List Char) : String × String :=
  let (name, value) := cs.span (· != '=')
  (.ofList name, .ofList (value.drop 1))

/-- The variables that are set. -/
def currentEnvironment : IO Environment := do
  let content ← IO.FS.readBinFile "/proc/self/environ"
  let text := (String.fromUTF8? content).getD ""
  let settings := (text.toList.splitOn '\x00').filter (!·.isEmpty)
  return ⟨settings.map settingOf⟩

/-! ## Files -/

/-- Whether a path leads to something. -/
def isThere (path : String) : IO Bool := do
  try
    let _ ← IO.FS.realPath path
    return true
  catch _ => return false

/-- What a path leads to. What is no locked file, and cannot be read, counts as a directory. -/
def lookAt (path : String) : IO FileTree := do
  try
    return .file (← IO.FS.readBinFile path)
  catch
    | .permissionDenied .. => return .locked
    | _ => return .directory []

/-- Adds what a path leads to, unless there is something at its place already. -/
def addFile (working : List String) (tree : FileTree) (path : String) : IO FileTree := do
  let place := FileTree.placeOf working ⟨path⟩
  if (tree.find? place).isSome || !(← isThere path) then return tree
  return tree.put place (← lookAt path)

/-- The path, and all paths that it leads through. -/
def waypoints (path : FilePath) : List String :=
  (List.range (path.segments.length + 1)).map fun n => "/".intercalate (path.segments.take n)

/-- The files that a run may need: the one that is asked for, or those that are looked for. -/
def neededFiles (s : Surroundings) (args : List String) : List FilePath :=
  match Request.ofArguments? s.environment args with
  | some (.run _ (some path) _) => [path]
  | some (.run _ none _) => Surroundings.candidates s.workingPath
  | _ => []

/-- What a run can see. -/
def currentSurroundings (args : List String) : IO Surroundings := do
  let environment ← currentEnvironment
  let working := FileTree.placeOf [] ⟨(← IO.currentDir).toString⟩
  let start : Surroundings := ⟨FileTree.put (.directory []) working (.directory []), working, environment⟩
  let paths := (neededFiles start args).flatMap waypoints
  return { start with files := ← paths.foldlM (addFile working) start.files }

/-! ## Clock -/

/-- The text of a moment, with millionths of a second. -/
def stampOf (m : Calendar.Moment) : String :=
  let date := m.date
  let micros := (Decimal.natText (m.nanoseconds / 1000)).toList.leftpad 6 '0'
  yearText date.year ++ "-" ++ twoDigits date.month ++ "-" ++ twoDigits date.day ++ "T"
    ++ twoDigits m.hour ++ ":" ++ twoDigits m.minute ++ ":" ++ twoDigits m.second ++ "."
    ++ .ofList micros ++ "Z"

/-- What the clock shows. -/
def currentClock : IO Clock := do
  let nanos := (← Std.Time.Timestamp.now).toNanosecondsSinceUnixEpoch.val
  let perSecond : Int := Calendar.Moment.nanosPerSecond
  let now : Calendar.Moment := ⟨nanos.fdiv perSecond, (nanos.fmod perSecond).toNat⟩
  return ⟨now, stampOf now⟩

end SiteManifest

open SiteManifest in
/-- Runs the command line. -/
def main (args : List String) : IO UInt32 := do
  let outcome := runLine (← currentSurroundings args) (← currentClock) args
  (← IO.getStdout).putStr outcome.output
  (← IO.getStderr).putStr outcome.errors
  return .ofNat outcome.code
