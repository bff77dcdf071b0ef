import ConnectorSchema.CommandLine.Command
import ConnectorSchema.CommandLine.Complaint
import ConnectorSchema.CommandLine.Listing
import ConnectorSchema.Generation

/-!
Running a command: file system in; output, reports, exit status and the new file system out. A
connector that cannot be generated does not stop the others, but the run then fails. What a formatter
makes of a text is no matter of the command, so formatters are parameters.
-/

namespace ConnectorSchema.CommandLine

/-- What a command leaves behind. -/
structure Ending where
  status : Nat
  out : String
  /-- The reports that are shown. -/
  reports : List Event
  /-- What is said about a failure after the reports. -/
  complaint : String
  fs : FileSystem

/-- What has come of the connectors so far. -/
structure Tally where
  fs : FileSystem
  events : List Event
  failures : Nat

/-- Generates the file of one more connector. -/
def Tally.add (formatter : FileSystem → Formatter) (output : String) (t : Tally) (c : Connector) :
    Tally :=
  let g := t.fs.generateFile c.path c.kind c.code output (formatter t.fs)
  match g.result with
  | .ok file =>
    ⟨g.fs, t.events ++ g.events ++ [.succeeded file.path file.attributeCount file.size file.hash],
      t.failures⟩
  | .error e =>
    let failure := "Failed to generate " ++ c.kind.name ++ " " ++ c.code
    ⟨g.fs, t.events ++ g.events ++ [.failed (": ".intercalate (failure :: e.causes))],
      t.failures + 1⟩

namespace Command

/-- Generates the files of the connectors that are found. The formatter may look at the files that are
there when it is run. -/
def runGenerate (formatter : FileSystem → Formatter) (fs : FileSystem) (backend output : String)
    (selection : Selection) : Ending :=
  let found := fs.connectorsOf backend selection.kinds
  let events := .discovering backend :: selection.kinds.map (fs.discoveryEvent backend)
  if found = [] then ⟨0, "", events ++ [.nothingFound backend], "", fs⟩
  else
    let tally := found.foldl (Tally.add formatter output) ⟨fs, events, 0⟩
    let total := found.length
    let failure := toString tally.failures ++ " of " ++ toString total ++ " connectors failed"
    let reports := tally.events ++ [.summary (total - tally.failures) total output]
    if tally.failures = 0 then ⟨0, "", reports, "", tally.fs⟩
    else ⟨1, "", reports, complaint failure [], tally.fs⟩

def runList (fs : FileSystem) (backend : String) (selection : Selection) : Ending :=
  let found := fs.connectorsOf backend selection.kinds
  ⟨0, String.join (found.map connectorLine),
    .discovering backend :: selection.kinds.map (fs.discoveryEvent backend)
      ++ [.foundInAll found.length], "", fs⟩

def runInspect (fs : FileSystem) (file : String) (kind : EntityKind) (code : String) : Ending :=
  match fs.load file with
  | .error problem =>
    ⟨1, "", [], complaint "Failed to load connector configuration" problem.causes, fs⟩
  | .ok d =>
    let model := Model.ofDocument kind code d
    let events := d.loadedEvent file :: d.modelEvents kind code model
    match model with
    | .error problem =>
      ⟨1, "", events, complaint ("Failed to model " ++ kind.name ++ " " ++ code) problem.causes, fs⟩
    | .ok m => ⟨0, modelLine m ++ String.join (m.attributes.map attributeLine), events, "", fs⟩

/-- Runs a command, with a formatter for each choice of one. -/
def run (formatter : FormatterChoice → FileSystem → Formatter) (fs : FileSystem) : Command → Ending
  | .generate backend output selection choice =>
    runGenerate (formatter choice) fs backend output selection
  | .list backend selection => runList fs backend selection
  | .inspect file kind code => runInspect fs file kind code

end Command

end ConnectorSchema.CommandLine
