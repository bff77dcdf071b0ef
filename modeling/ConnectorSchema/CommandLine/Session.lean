import ConnectorSchema.CommandLine.Arguments
import ConnectorSchema.CommandLine.Help
import ConnectorSchema.CommandLine.Run
import ConnectorSchema.Filter.Launcher

/-!
A whole session: a command is read from arguments and environment and is run with the formatters of
the system.
-/

namespace ConnectorSchema.CommandLine

/-- Levels by the words that set the limit of reports. -/
def limitWords : List (String × Option Level) := [
  ("off", none), ("error", some .error), ("warn", some .warning), ("info", some .info),
  ("debug", some .debug), ("trace", some .debug)]

/-- How much detail is shown. -/
def reportLimit (environment : Environment) (verbose : Bool) : Option Level :=
  if verbose then some .debug
  else
    match environment.lookup "RUST_LOG" with
    | none => some .info
    | some "" => some .error
    | some word => (limitWords.lookup (word.map Char.toLower)).getD (some .info)

/-- The variable with the directories that programs are looked for in. -/
def searchVariable : String := "PATH"

/-- The directories that programs are looked for in. -/
def searchPath (environment : Environment) : String :=
  (environment.lookup searchVariable).getD Filter.standardSearch

def Request.run (environment : Environment) (fs : FileSystem) (r : Request) : Ending :=
  let ending := r.command.run (fun choice fs => choice.formatter fs (searchPath environment)) fs
  { ending with reports := ending.reports.filter (Event.shown (reportLimit environment r.verbose)) }

def Interruption.ending (fs : FileSystem) : Interruption → Ending
  | .usage e => ⟨2, "", [], e.message, fs⟩
  | .help verb? true => ⟨0, helpText verb?, [], "", fs⟩
  | .help verb? false => ⟨2, "", [], helpText verb?, fs⟩
  | .version => ⟨0, versionText, [], "", fs⟩

/-- Runs the program. -/
def session (environment : Environment) (fs : FileSystem) (arguments : List String) : Ending :=
  match Request.ofArguments environment arguments with
  | .ok request => request.run environment fs
  | .error interruption => interruption.ending fs

end ConnectorSchema.CommandLine
