import ConnectorSchema.CommandLine.UsageError
import ConnectorSchema.Files.Path

/-!
What has been said to a command, and the command that follows from it.
-/

namespace ConnectorSchema.CommandLine

/-- The values said so far. -/
structure Settings where
  verbose : Bool := false
  unformatted : Bool := false
  backend? : Option String := none
  output? : Option String := none
  selection? : Option Selection := none
  formatter? : Option String := none
  file? : Option String := none
  kind? : Option EntityKind := none
  code? : Option String := none
deriving DecidableEq

/-- The values of variables of the environment. -/
abbrev Environment := List (String × String)

namespace Settings

/-- Whether a parameter has been said. -/
def has (s : Settings) : Parameter → Bool
  | .verbose => s.verbose
  | .unformatted => s.unformatted
  | .backend => s.backend?.isSome
  | .output => s.output?.isSome
  | .selection => s.selection?.isSome
  | .formatter => s.formatter?.isSome
  | .file => s.file?.isSome
  | .kind => s.kind?.isSome
  | .code => s.code?.isSome
  | .help | .version => false

/-- A flag is raised once. -/
def raise (s : Settings) (p : Parameter) : Except UsageError Settings :=
  if s.has p then .error (.repeated p)
  else
    match p with
    | .verbose => .ok { s with verbose := true }
    | .unformatted => .ok { s with unformatted := true }
    | _ => .ok s

/-- A path is not empty. -/
def path (p : Parameter) (value : String) : Except UsageError String :=
  if value = "" then .error (.valueMissing p) else .ok value

def readSelection (value : String) : Except UsageError Selection :=
  match Selection.words.lookup value with
  | some selection => .ok selection
  | none => .error (if value = "" then .valueMissing .selection else .valueInvalid .selection value)

def readKind (value : String) : Except UsageError EntityKind :=
  (EntityKind.ofName value).mapError (.kindUnknown .kind value)

/-- A value is given once. -/
def give (s : Settings) (p : Parameter) (value : String) : Except UsageError Settings := do
  if s.has p then .error (.repeated p)
  else
    match p with
    | .backend => return { s with backend? := ← path p value }
    | .output => return { s with output? := ← path p value }
    | .selection => return { s with selection? := ← readSelection value }
    | .formatter => return { s with formatter? := value }
    | .file => return { s with file? := ← path p value }
    | .kind => return { s with kind? := ← readKind value }
    | .code => return { s with code? := value }
    | .verbose | .unformatted | .help | .version => return s

/-- Gives a value from the environment unless the command line has given one. -/
def giveFrom (environment : Environment) (s : Settings) (p : Parameter) :
    Except UsageError Settings :=
  match p.variableName?.bind fun name => environment.lookup name with
  | some value => if s.has p then .ok s else s.give p value
  | none => .ok s

def formatter (s : Settings) : FormatterChoice :=
  if s.unformatted then .disabled
  else (s.formatter?.map fun program => .command program []).getD .standard

/-- The command that is meant. -/
def command (s : Settings) (verb : Verb) : Except UsageError Command :=
  let selection := s.selection?.getD .all
  match verb with
  | .generate =>
    match s.backend? with
    | some backend =>
      .ok (.generate backend (s.output?.getD Path.defaultOutput) selection s.formatter)
    | none => .error (.missing [.backend])
  | .list =>
    match s.backend? with
    | some backend => .ok (.list backend selection)
    | none => .error (.missing [.backend])
  | .inspect =>
    match s.file?, s.kind?, s.code? with
    | some file, some kind, some code => .ok (.inspect file kind code)
    | _, _, _ => .error (.missing ([.kind, .code, .file].filter (!s.has ·)))

end Settings

end ConnectorSchema.CommandLine
