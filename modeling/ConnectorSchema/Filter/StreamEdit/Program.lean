import ConnectorSchema.Filter.Choice
import ConnectorSchema.Filter.StreamEdit.Machine
import ConnectorSchema.Filter.StreamEdit.Reader

/-!
The program `sed`.
-/

namespace ConnectorSchema.Filter.StreamEdit

def choiceNames : ChoiceNames where
  flags := ['n', 'E', 'r', 's', 'u', 'z', 'b', 'p', 'd']
  valued := ['e', 'f', 'l']
  attached := ['i']
  long := [("debug", 'd'), ("quiet", 'n'), ("silent", 'n'), ("expression", 'e'), ("file", 'f'),
    ("in-place", 'i'), ("line-length", 'l'), ("posix", 'p'), ("regexp-extended", 'E'),
    ("separate", 's'), ("unbuffered", 'u'), ("null-data", 'z'), ("zero-terminated", 'z'),
    ("binary", 'b')]

/-- What is said when there is no script. -/
def usage (t : Task) : Octets :=
  "Usage: ".toList ++ t.name
    ++ " [OPTION]... \x7bscript-only-if-no-other-script\x7d [input-file]...\n".toList

/-- How much is read of the input at once. -/
def blockSize : Nat := 4096

/-- The expressions of the script, in the order of the arguments, and the operands that are files. -/
def expressionsOf (t : Task) (choices : List Choice) (operands : List Octets) :
    Except (Nat × Octets) (List Octets × List Octets) := do
  let step (found : List Octets) (c : Choice) : Except (Nat × Octets) (List Octets) :=
    match c.letter with
    | 'e' => .ok (found ++ [c.value])
    | 'f' =>
      match t.bytesAt c.value with
      | .ok text => .ok (found ++ [text])
      | .error e =>
        .error (4, t.remark ("couldn't open file " ++ c.value.toText ++ ": " ++ e.words))
    | _ => .ok found
  match ← choices.foldlM step [], operands with
  | [], [] => .error (1, usage t)
  | [], script :: files => .ok ([script], files)
  | expressions, files => .ok (expressions, files)

/-- What is left of the input when reading stopped with some lines ahead. -/
def leftOf (input : Octets) (ahead : List Line) : Octets :=
  let unread := ahead.foldl (fun n line => n + line.text.length + 1) 0
  let read := input.length - unread
  input.drop ((read + blockSize - 1) / blockSize * blockSize)

/-- Writes the files that a script has written. -/
def storeWritten (files : FileSystem) (written : List (Octets × Octets)) : FileSystem :=
  (written.map (·.1)).eraseDups.foldl (fun files name =>
    let text := (written.filter (·.1 = name)).reverse.flatMap (·.2)
    ((files.write name.toText (Octets.toBytes text)).toOption).getD files) files

def complainOf (name : Octets) (e : FileError) : String :=
  match e with
  | .isDirectory => "read error on " ++ name.toText ++ ": " ++ e.words
  | e => "can't read " ++ name.toText ++ ": " ++ e.words

/-- Takes the lines of an input through a script. -/
def edit (o : Options) (script : List Command) (text : Octets) : Machine × Nat :=
  /- A range that begins with line zero has begun before the first line. -/
  let begun := script.filterMap fun c =>
    match c.selection.first? with
    | some (.line 0) => some (c.place, OpenRange.untilFound)
    | _ => none
  let start : Machine :=
    { line := ⟨[], true⟩, kept := ⟨[], true⟩, number := 0, ahead := linesOf o.ending text, out := [],
      owed := false, waiting := [], replaced := false, ranges := begun, lastSought := none,
      written := [], unread := [], failure := none }
  match start.readLine? o false with
  | none => (start, 0)
  | some m => m.runLines o script Machine.maxSteps

def run (t : Task) (choices : List Choice) (expressions files : List Octets) : Outcome :=
  let has := chosen choices
  match readScript (has 'E' || has 'r') expressions with
  | .error (status, message) => t.refuses status (t.remark message)
  | .ok script =>
    if has 'i' && files.isEmpty then t.refuses 4 (t.remark "no input files")
    else
      let o : Options :=
        ⟨has 'n' || asksForSilence expressions, if has 'z' then '\x00' else '\n',
          ((valueOf? choices 'l').bind Octets.number?).getD 70, t⟩
      let s := t.sources complainOf files
      let input := s.texts.flatMap (·.2)
      let (m, status) := edit o script input
      let outcome := t.endsAfter s 2 m.out.reverse.flatten
      let status := if status = 0 then outcome.status else .code status
      { outcome with
        status
        err := outcome.err ++ (m.failure.map t.remark).getD []
          ++ (m.written.reverse.filter (·.1 = "/dev/stderr".toList)).flatMap (·.2)
        left := if s.drained then leftOf input m.ahead else outcome.left
        files := storeWritten t.files m.written }

def program : Program := fun t =>
  match choiceNames.read t.arguments with
  | .error message => t.refuses 1 (t.remark message ++ usage t)
  | .ok (choices, operands) =>
    match expressionsOf t choices operands with
    | .error (status, message) => t.refuses status message
    | .ok (expressions, files) => run t choices expressions files

end ConnectorSchema.Filter.StreamEdit
