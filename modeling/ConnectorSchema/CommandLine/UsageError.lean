import ConnectorSchema.CommandLine.Parameter
import ConnectorSchema.Text.Terminal

/-!
Why arguments make no request.
-/

namespace ConnectorSchema.CommandLine

inductive UsageError where
  | unexpected (argument : String)
  | unknownCommand (name : String)
  | noCommand
  | missing (parameters : List Parameter)
  | valueMissing (p : Parameter)
  | valueUnexpected (p : Parameter) (value : String)
  | valueInvalid (p : Parameter) (value : String)
  /-- A value that is the name of no kind. -/
  | kindUnknown (p : Parameter) (value name : String)
  | repeated (p : Parameter)
deriving DecidableEq, Repr

namespace UsageError

open Text.Terminal

/-- What somebody said, as an error shows it. -/
def said (word : String) : String := "'" ++ styled .doubtful word ++ "'"

def explain : UsageError → String
  | .unexpected argument => "unexpected argument " ++ said argument ++ " found"
  | .unknownCommand name => "unrecognized subcommand " ++ said name
  | .noCommand => "'" ++ programName ++ "' requires a subcommand but one was not provided"
  | .missing parameters =>
    "\n  ".intercalate
      ("the following required arguments were not provided:" :: parameters.map Parameter.label)
  | .valueMissing p => "a value is required for '" ++ p.label ++ "' but none was supplied"
  | .valueUnexpected p value =>
    "unexpected value " ++ said value ++ " for '" ++ p.label ++ "' found; no more were expected"
  | .valueInvalid p value => "invalid value " ++ said value ++ " for '" ++ p.label ++ "'"
  | .kindUnknown p value name =>
    "invalid value " ++ said value ++ " for '" ++ p.label ++ "': " ++ EntityKind.unknownMessage name
  | .repeated p => "the argument '" ++ p.label ++ "' cannot be used multiple times"

/-- The whole report, as a stream gets it that is no terminal. -/
def message (e : UsageError) : String :=
  plain (styled .alarming "error:" ++ " " ++ e.explain ++ "\n\nFor more information, try '"
    ++ styled .bold "--help" ++ "'.\n")

end UsageError

end ConnectorSchema.CommandLine
