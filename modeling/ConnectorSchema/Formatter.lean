import ConnectorSchema.Launch
import ConnectorSchema.Text.Blank
import ConnectorSchema.Text.Utf8

/-!
Formatters: functions from a source text to a formatted one, or to a reason why there is none. A
program that reads the source and writes the result is a formatter. Its failure counts before any
trouble with writing to it, and that before what it wrote.
-/

namespace ConnectorSchema

/-- Why a formatter gave no text. -/
inductive Rejection where
  | notStarted (program : String) (error : FileError)
  | notAwaited (program : String) (error : FileError)
  /-- The program failed and said why. -/
  | diagnosed (text : String)
  /-- The program failed without a word. -/
  | ended (program : String) (status : ExitStatus)
  /-- The program did not take the source. -/
  | notWritten (program : String) (error : FileError)
  | notText (program : String) (fault : Text.Utf8.Fault)
deriving DecidableEq

def Rejection.message : Rejection → String
  | .notStarted program error => "failed to run " ++ program ++ ": " ++ error.message
  | .notAwaited program error => "failed to wait for " ++ program ++ ": " ++ error.message
  | .diagnosed text => text
  | .ended program status => program ++ " exited with " ++ status.describe
  | .notWritten program error => "failed to write to " ++ program ++ ": " ++ error.message
  | .notText program fault => program ++ " produced invalid UTF-8: " ++ fault.message

structure Formatter where
  name : String
  /-- The program that is run, with its arguments. -/
  command? : Option (String × List String)
  format : String → Except Rejection String

namespace Formatter

/-- Leaves every text as it is. -/
def none : Formatter := ⟨"none", .none, .ok⟩

/-- The result of a program. -/
def judge (program : String) (launch : Launch) : Except Rejection String :=
  match launch.remains with
  | .error error => .error (.notAwaited program error)
  | .ok remains =>
    if remains.status ≠ .code 0 then
      let said := Text.trim (Text.Utf8.decodeLossy remains.err)
      .error (if said = "" then .ended program remains.status else .diagnosed said)
    else
      match launch.written with
      | .error error => .error (.notWritten program error)
      | .ok () => (Text.Utf8.decode remains.out).mapError (.notText program)

/-- Runs a program. -/
def ofProgram (launcher : Launcher) (program : String) (arguments : List String) : Formatter :=
  ⟨program, some (program, arguments), fun source =>
    match launcher program arguments source with
    | .error error => .error (.notStarted program error)
    | .ok launch => judge program launch⟩

end Formatter

/-- How generated files are to be formatted. -/
inductive FormatterChoice where
  | disabled
  | command (program : String) (arguments : List String)
deriving DecidableEq, Repr

/-- The formatter that is used unless another one is named. -/
def FormatterChoice.standard : FormatterChoice := .command "gofmt" []

end ConnectorSchema
