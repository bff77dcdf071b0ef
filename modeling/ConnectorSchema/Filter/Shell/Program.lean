import ConnectorSchema.Filter.Shell.Run

/-!
The program `sh`: it runs a script that is given as an argument, that is in a file, or that is its
input.
-/

namespace ConnectorSchema.Filter.Shell

/-- How a shell is started. -/
structure Start where
  session : Session
  /-- Whether the script is the first operand. -/
  scripted : Bool
  /-- Whether the script is the input. -/
  fromInput : Bool
  operands : List Octets

/-- Reads the letters of an option. Those that need a name take it from the arguments. -/
def startLetters (on : Bool) : Octets → Start → Except Session Start
  | [], start => .ok start
  | 'c' :: rest, start =>
    if on then startLetters on rest { start with scripted := true }
    else .error (start.session.abort "Illegal option +c".toList)
  | 'l' :: rest, start => startLetters on rest start
  | 's' :: rest, start => startLetters on rest { start with fromInput := on }
  | 'o' :: rest, start => do
    match start.operands with
    | [] => startLetters on rest start
    | name :: operands =>
      match Builtin.longOptions.lookup (String.ofList name) with
      | some letter =>
        let session ← Builtin.setOptions start.session on [letter]
        startLetters on rest { start with session, operands }
      | none =>
        .error (start.session.abort
          ("Illegal option ".toList ++ [if on then '-' else '+', 'o', ' '] ++ name))
  | c :: rest, start => do
    let session ← Builtin.setOptions start.session on [c]
    startLetters on rest { start with session }

/-- Reads the options in front of the operands. The first argument bounds the number of steps. -/
def startOptions : Nat → Start → Except Session Start
  | 0, start => .ok start
  | steps + 1, start =>
    match start.operands with
    | ['-'] :: rest | ['-', '-'] :: rest => .ok { start with operands := rest }
    | ('-' :: letters) :: rest => do
      startOptions steps (← startLetters true letters { start with operands := rest })
    | ('+' :: letters) :: rest => do
      startOptions steps (← startLetters false letters { start with operands := rest })
    | _ => .ok start

/-- The script of a shell, and the session in which it runs. -/
def Start.script (start : Start) : Except Session (Octets × Session) :=
  let s := start.session
  if start.scripted then
    match start.operands with
    | [] => .error (s.abort "-c requires an argument".toList)
    | script :: name :: parameters => .ok (script, { s with name, parameters })
    | [script] => .ok (script, s)
  else
    match start.operands, start.fromInput with
    | name :: parameters, false =>
      match openToRead s name.toText with
      | .ok (.source channel, s) =>
        .ok (s.channel channel, { s.setChannel channel [] with name, parameters })
      | .ok (_, s) => .ok ([], s)
      | .error .isDirectory => .ok ([], s)
      | .error error =>
        .error (s.abort ("cannot open ".toList ++ name
          ++ Octets.ofString (": " ++ openingWords "No such file" error)))
    | parameters, _ => .ok ((s.unread? 0).getD [], { s.leave 0 [] with parameters })

/-- The numbers of the channels that a shell is started with. -/
def inputChannel : Nat := 0

def outChannel : Nat := 1

def errChannel : Nat := 2

/-- The session that a shell starts with. -/
def startOf (programs : Installed) (t : Task) : Session where
  bindings := t.environment.map fun (name, value) => (name, ⟨some value, true, false⟩)
  functions := []
  name := t.name
  parameters := []
  streams :=
    (if t.input.isSome then [(0, Stream.source inputChannel)] else [])
      ++ [(1, .sink outChannel), (2, .sink errChannel)]
  options := []
  traps := []
  saved := []
  loops := 0
  status := 0
  substituted := 0
  flow := .onward
  line := 0
  command := none
  documents := []
  channels := [(inputChannel, t.input.getD []), (outChannel, []), (errChannel, [])]
  nextChannel := 3
  files := t.files
  programs

/-- What a shell leaves behind. -/
def outcomeOf (s : Session) : Outcome where
  out := (s.channel outChannel).reverse
  err := (s.channel errChannel).reverse
  status :=
    match s.flow with
    | .killed n => .signal n
    | _ => .code s.status
  left := s.channel inputChannel
  files := s.files

/-- A shell that can call some programs. -/
def program (programs : Installed) : Program := fun t =>
  let session := startOf programs t
  let ended :=
    match startOptions t.arguments.length ⟨session, false, false, t.arguments⟩ with
    | .error s => s
    | .ok start =>
      match start.script with
      | .error s => s
      | .ok (script, s) => runScript script s
  { outcomeOf ended with files := { ended.files with here := t.files.here } }

end ConnectorSchema.Filter.Shell
