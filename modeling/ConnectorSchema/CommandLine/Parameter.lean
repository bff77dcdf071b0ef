import ConnectorSchema.CommandLine.Command

/-!
What can be said to a command: options with a value, flags without one, and the file, which has its
place instead of a name. Some values are also taken from the environment.
-/

namespace ConnectorSchema.CommandLine

inductive Parameter where
  | verbose
  | help
  | version
  | backend
  | output
  | selection
  | formatter
  | unformatted
  | file
  | kind
  | code
deriving DecidableEq, Repr

namespace Parameter

/-- The name after two dashes. -/
def long? : Parameter → Option String
  | .verbose => some "verbose"
  | .help => some "help"
  | .version => some "version"
  | .backend => some "backend-path"
  | .output => some "output"
  | .selection | .kind => some "entity-type"
  | .formatter => some "formatter"
  | .unformatted => some "no-format"
  | .code => some "code"
  | .file => none

/-- The letter after one dash. -/
def short? : Parameter → Option Char
  | .verbose => some 'v'
  | .help => some 'h'
  | .version => some 'V'
  | .output => some 'o'
  | _ => none

/-- The word that stands for the value. A parameter without one is a flag. -/
def placeholder? : Parameter → Option String
  | .backend => some "BACKEND_PATH"
  | .output => some "OUTPUT"
  | .selection | .kind => some "ENTITY_TYPE"
  | .formatter => some "FORMATTER"
  | .file => some "FILE"
  | .code => some "CODE"
  | .verbose | .help | .version | .unformatted => none

/-- The environment variable that gives the value when the command line does not. -/
def variableName? : Parameter → Option String
  | .backend => some "SCHEMAGEN_BACKEND_PATH"
  | .output => some "SCHEMAGEN_OUTPUT"
  | .formatter => some "SCHEMAGEN_FORMATTER"
  | _ => none

/-- What messages call the parameter. -/
def label (p : Parameter) : String :=
  " ".intercalate
    ((p.long?.map ("--" ++ ·)).toList ++ (p.placeholder?.map fun w => "<" ++ w ++ ">").toList)

def summary : Parameter → String
  | .verbose => "Enable verbose logging"
  | .help => "Print help"
  | .version => "Print version"
  | .backend => "Root of the backend checkout"
  | .output => "Directory generated files are written to"
  | .selection => "Entity kinds to work on"
  | .formatter => "Formatter program (reads stdin, writes stdout)"
  | .unformatted => "Write generated code without formatting it"
  | .file => "Connector configuration file"
  | .kind => "Entity kind (source, destination or transform)"
  | .code => "Connector code (e.g. postgresql)"

end Parameter

/-- The parameters of a command in the order in which they are looked at. -/
def Verb.parameters : Verb → List Parameter
  | .generate => [.backend, .output, .selection, .formatter, .unformatted, .verbose, .help]
  | .list => [.backend, .selection, .verbose, .help]
  | .inspect => [.file, .kind, .code, .verbose, .help]

/-- The parameters before the name of a command. -/
def leadingParameters : List Parameter := [.verbose, .help, .version]

end ConnectorSchema.CommandLine
