import ConnectorSchema.Filter.Concatenation
import ConnectorSchema.Filter.Lines
import ConnectorSchema.Filter.Matching
import ConnectorSchema.Filter.Plain
import ConnectorSchema.Filter.Shell.Program
import ConnectorSchema.Filter.StreamEdit.Program
import ConnectorSchema.Filter.Transliterate

/-!
The programs of the system, and how one of them is run on a text.
-/

namespace ConnectorSchema.Filter

/-- The programs that start no others. -/
def tools : Installed := [
  ("cat", Concatenation.program), ("tr", Transliterate.program), ("sed", StreamEdit.program),
  ("true", Plain.ending 0), ("false", Plain.ending 1), ("echo", Plain.echo),
  ("sleep", Plain.sleep), ("tee", Plain.tee), ("head", Lines.head), ("tail", Lines.tail),
  ("tac", Lines.tac), ("sort", Lines.sort), ("uniq", Lines.uniq), ("wc", Lines.wc),
  ("grep", Matching.grep)]

/-- All programs, of which shells can start each other so deep. -/
def programsTo : (depth : Nat) → Installed
  | 0 => tools
  | depth + 1 =>
    let shell := Shell.program (programsTo depth)
    ("sh", shell) :: ("dash", shell) :: tools

/-- How deep shells can start each other. -/
def maxShells : Nat := 64

/-- The programs of the system. -/
def installed : Installed := programsTo maxShells

/-- Runs a program that is looked for in a search path on a text, or says why it cannot be started. -/
def start (fs : FileSystem) (search name : String) (arguments : List String) (text : String) :
    Except FileError Outcome :=
  if (name :: arguments).any fun s => s.toList.contains '\x00' then .error .nulInArgument
  else
    (installed.find fs search name).map fun program =>
      program
        { name := .ofString name
          arguments := arguments.map .ofString
          input := some (.ofString text)
          files := fs
          environment := [(.ofString "PATH", .ofString search)] }

end ConnectorSchema.Filter
