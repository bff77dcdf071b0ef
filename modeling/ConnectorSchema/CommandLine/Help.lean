import ConnectorSchema.CommandLine.Parameter

/-!
Help about the program and its commands.
-/

namespace ConnectorSchema.CommandLine

def programSummary : String :=
  programName ++ " - Terraform schemas from connector configuration"

def versionText : String := programName ++ " 0.1.0\n"

/-- Rows of two columns. The second begins two blanks after the longest text of the first. -/
def table (rows : List (String × String)) : String :=
  let width := rows.foldl (fun n row => max n row.1.length) 0
  String.join (rows.map fun (left, right) =>
    "  " ++ left ++ "".pushn ' ' (width - left.length + 2) ++ right ++ "\n")

/-- How a parameter is written. -/
def Parameter.usage (p : Parameter) : String :=
  match p.short?, p.long? with
  | some c, _ => String.ofList ['-', c] ++ ", " ++ p.label
  | none, some _ => "    " ++ p.label
  | none, none => p.label

def Parameter.description (p : Parameter) : String :=
  match p.variableName? with
  | some name => p.summary ++ " [env: " ++ name ++ "]"
  | none => p.summary

def parameterTable (parameters : List Parameter) : String :=
  table (parameters.map fun p => (p.usage, p.description))

def helpText : Option Verb → String
  | none =>
    programSummary ++ "\n\nUsage: " ++ programName ++ " [OPTIONS] <COMMAND>\n\nCommands:\n"
      ++ table (Verb.all.map (fun verb => (verb.name, verb.summary))
        ++ [("help", "Print this message or the help of the given subcommand(s)")])
      ++ "\nOptions:\n" ++ parameterTable leadingParameters
  | some verb =>
    let (options, places) := verb.parameters.partition (·.long?.isSome)
    verb.summary ++ "\n\nUsage: "
      ++ " ".intercalate ([programName, verb.name, "[OPTIONS]"] ++ places.map Parameter.label) ++ "\n"
      ++ (if places = [] then "" else "\nArguments:\n" ++ parameterTable places)
      ++ "\nOptions:\n" ++ parameterTable options

end ConnectorSchema.CommandLine
