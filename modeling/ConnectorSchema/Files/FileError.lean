/-!
What can go wrong with a file or a program, in the words of the operating system.
-/

namespace ConnectorSchema

inductive FileError where
  | notFound
  | badDescriptor
  | permissionDenied
  | alreadyExists
  | notDirectory
  | isDirectory
  | brokenPipe
  | nameTooLong
  | tooManyLinks
  | nulInName
  | nulInArgument
  /-- The file can be read but holds bytes that are no text. -/
  | notText
deriving DecidableEq, Repr

namespace FileError

/-- What went wrong. -/
def words : FileError → String
  | .notFound => "No such file or directory"
  | .badDescriptor => "Bad file descriptor"
  | .permissionDenied => "Permission denied"
  | .alreadyExists => "File exists"
  | .notDirectory => "Not a directory"
  | .isDirectory => "Is a directory"
  | .brokenPipe => "Broken pipe"
  | .nameTooLong => "File name too long"
  | .tooManyLinks => "Too many levels of symbolic links"
  | .nulInName => "file name contained an unexpected NUL byte"
  | .nulInArgument => "nul byte found in provided data"
  | .notText => "stream did not contain valid UTF-8"

/-- The number that the operating system has for it. -/
def number? : FileError → Option Nat
  | .notFound => some 2
  | .badDescriptor => some 9
  | .permissionDenied => some 13
  | .alreadyExists => some 17
  | .notDirectory => some 20
  | .isDirectory => some 21
  | .brokenPipe => some 32
  | .nameTooLong => some 36
  | .tooManyLinks => some 40
  | .nulInName | .nulInArgument | .notText => none

def message (e : FileError) : String :=
  match e.number? with
  | some n => e.words ++ " (os error " ++ toString n ++ ")"
  | none => e.words

end FileError

end ConnectorSchema
