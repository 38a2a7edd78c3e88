import SiteManifest.CommandLine.Arguments
import SiteManifest.CommandLine.Report
import SiteManifest.Loading
import SiteManifest.Log.Filter

/-!
# Runs

What a command line does: the texts it writes and the code it ends with. What is told on the way goes to
the error output, where only the events are shown that the filter lets pass.
-/

namespace SiteManifest

/-- What a run leaves behind. -/
structure Outcome where
  code : Nat
  output : String
  errors : String
  deriving DecidableEq, Repr

/-- The times that a run shows: the moment of the sample label, and the text in front of log lines. -/
structure Clock where
  now : Calendar.Moment
  stamp : String
  deriving DecidableEq, Repr

/-- Lines of text, each with its end. -/
def unlines (lines : List String) : String := String.join (lines.map (· ++ "\n"))

/-! ## Logs -/

/-- The colour of a level. -/
def Level.paint : Level → Paint
  | .error => .red
  | .warn => .yellow
  | .info => .green
  | .debug => .blue
  | .trace => .magenta

/-- The log line about an event. -/
def Event.line (colours : Bool) (stamp : String) (e : Event) : String :=
  let dim := Paint.apply colours [.dim]
  let detail := fun (name, value) =>
    " " ++ Paint.apply colours [.italic] name ++ dim "=" ++ value
  dim stamp ++ " " ++ Paint.apply colours [e.level.paint] e.level.label ++ " "
    ++ dim e.origin ++ dim ":" ++ " " ++ e.message ++ String.join (e.details.map detail)

/-- The filter of a run: that of the environment, unless more is asked for. -/
def logFilter (env : Environment) (verbose : Bool) : LogFilter :=
  if verbose then .upTo .info
  else ((env.get? "RUST_LOG").bind LogFilter.ofText?).getD (.upTo .warn)

/-- Whether log lines are coloured. -/
def colouredLogs (env : Environment) : Bool := (env.get? "NO_COLOR").all (· == "")

/-- Whether reports and errors are coloured: only if it is forced, since they go to no terminal. -/
def colouredReports (env : Environment) : Bool := (env.get? "CLICOLOR_FORCE").any (· != "0")

/-- The lines that are written about events. -/
def logLines (env : Environment) (verbose : Bool) (stamp : String) (es : List Event) : List String :=
  (es.filter (logFilter env verbose).passes).map (Event.line (colouredLogs env) stamp)

/-! ## Commands -/

/-- What a command writes about a site: its output, and the lines of its report. -/
def Command.write (colours : Bool) (now : Calendar.Moment) (path : FilePath) (s : Site) :
    Command → String × List String
  | .check => ("", Report.lines colours now path s)
  | .dump layout => (s.toJson.print layout ++ "\n", [])

/-- The line about a failure. -/
def LoadError.line (colours : Bool) (e : LoadError) : String :=
  Paint.apply colours [.red] ("Error: " ++ e.message)

/-- Runs a command on the site that a file describes. -/
def Command.run (s : Surroundings) (clock : Clock) (config : Option FilePath) (verbose : Bool)
    (c : Command) : Outcome :=
  let loaded := s.loadOrDiscover config
  let colours := colouredReports s.environment
  let logs := logLines s.environment verbose clock.stamp loaded.events
  match loaded.result with
  | .ok (path, site) =>
    let (output, lines) := c.write colours clock.now path site
    ⟨0, output, unlines (logs ++ lines)⟩
  | .error e => ⟨1, "", unlines (logs ++ [e.line colours])⟩

/-- The name and the version of the program. -/
def versionText : String := "docsite 0.1.0\n"

/-- How the program is used. -/
def usageText : String :=
  unlines ["Usage: docsite [-v] check [-c PATH]", "       docsite [-v] dump [-c PATH] [--compact]"]

/-- Runs a command line. -/
def runLine (s : Surroundings) (clock : Clock) (args : List String) : Outcome :=
  match Request.ofArguments? s.environment args with
  | none => ⟨2, "", usageText⟩
  | some .version => ⟨0, versionText, ""⟩
  | some .help => ⟨0, usageText, ""⟩
  | some (.run command config verbose) => command.run s clock config verbose

end SiteManifest
