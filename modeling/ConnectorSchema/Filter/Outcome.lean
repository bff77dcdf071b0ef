import ConnectorSchema.Files.FileSystem
import ConnectorSchema.Filter.Octets
import ConnectorSchema.Launch

/-!
What a program is started with and what comes of it. A program is a function of its arguments, its
input and the files around it.
-/

namespace ConnectorSchema.Filter

/-- What a program is started with. -/
structure Task where
  /-- The name that the program was called by. -/
  name : Octets
  arguments : List Octets
  /-- The input that waits to be read, or nothing if it is closed. -/
  input : Option Octets
  files : FileSystem
  /-- Variables with their values. -/
  environment : List (Octets × Octets)

/-- How many bytes can wait between a program that writes and one that reads. -/
def pipeCapacity : Nat := 65536

/-- What a program leaves behind. -/
structure Outcome where
  out : Octets
  err : Octets
  status : ExitStatus
  /-- The input that was not read. -/
  left : Octets
  files : FileSystem

abbrev Program := Task → Outcome

namespace Task

/-- Ends with some output, after all input was read. -/
def ends (t : Task) (status : Nat) (out err : Octets) : Outcome :=
  ⟨out, err, .code status, [], t.files⟩

/-- Something that the program says about itself. -/
def remark (t : Task) (message : String) : Octets :=
  t.name ++ Octets.ofString (": " ++ message ++ "\n")

/-- Ends with a complaint and nothing else, before any input was read. -/
def refuses (t : Task) (status : Nat) (complaint : Octets) : Outcome :=
  ⟨[], complaint, .code status, t.input.getD [], t.files⟩

/-- The bytes of a file. Some names stand for devices. -/
def bytesAt (t : Task) (name : Octets) : Except FileError Octets :=
  match name.toText with
  | "/dev/null" => .ok []
  | "/dev/stdin" =>
    match t.input with
    | some text => .ok text
    | none => .error .notFound
  | path => (t.files.readBytes path).map Octets.ofBytes

end Task

/-- What was read from several places. -/
structure Sources where
  /-- The texts with their names. -/
  texts : List (Octets × Octets)
  complaints : Octets
  /-- Whether the input of the program was among them. -/
  drained : Bool

/-- Reads files one after another. The name `-` means the program's own input, which can be read
once; without a name, that is all there is. -/
def Task.sources (t : Task) (complaint : Octets → FileError → String) (names : List Octets) :
    Sources :=
  let step (s : Sources) (name : Octets) : Sources :=
    let own := name = ['-'] || name.toText = "/dev/stdin"
    let found : Except FileError Octets :=
      if name = ['-'] then
        match t.input with
        | some text => .ok text
        | none => .error .badDescriptor
      else t.bytesAt name
    match found with
    | .ok text =>
      { s with texts := (name, if own && s.drained then [] else text) :: s.texts
               drained := s.drained || own }
    | .error e => { s with complaints := s.complaints ++ t.remark (complaint name e) }
  let read := (if names.isEmpty then [['-']] else names).foldl step ⟨[], [], false⟩
  { read with texts := read.texts.reverse }

/-- Ends after reading from several places. -/
def Task.endsAfter (t : Task) (s : Sources) (failure : Nat) (out : Octets) : Outcome :=
  ⟨out, s.complaints, .code (if s.complaints.isEmpty then 0 else failure),
    if s.drained then [] else t.input.getD [], t.files⟩

end ConnectorSchema.Filter
