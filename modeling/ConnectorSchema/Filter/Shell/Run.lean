import ConnectorSchema.Filter.Shell.Builtin
import ConnectorSchema.Filter.Shell.Reader
import ConnectorSchema.Filter.Shell.Redirection

/-!
Running commands. What a command does to a session is told step by step, given how the commands within
it are run; how deep they may lie in each other bounds the whole.
-/

namespace ConnectorSchema.Filter.Shell

/-! ### Scripts -/

/-- Runs the lines of a script until something else is going on. The first argument bounds their
number. -/
def runLines (evaluate : Evaluator) : Nat → Reading → Session → Session
  | 0, _, s => s
  | lines + 1, r, s =>
    match readLine r with
    | .finished => s
    | .faulty f =>
      { s with line := f.line }.abort (Octets.ofString ("Syntax error: " ++ f.message))
    | .commands c after =>
      let s := { s with documents := after.documents ++ s.documents }
      let s :=
        match c with
        | .nothing => s
        | c => if s.options.contains 'n' then s else evaluate c false s
      if s.isOnward then runLines evaluate lines { after with documents := [] } s else s

/-- Runs a script in the session. -/
def runText (evaluate : Evaluator) (text : Octets) (s : Session) : Session :=
  runLines evaluate (text.length + 1)
    { Reading.start text with documentCount := s.documents.length } s

/-- What a trap wants done. The status stays unless it ends the shell. -/
def runTrap (evaluate : Evaluator) (action : Octets) (s : Session) : Session :=
  let after := runText evaluate action s
  if after.isOnward then { after with status := s.status } else after

/-- What is done when a shell ends. -/
def atEnd (evaluate : Evaluator) (s : Session) : Session :=
  match s.flow with
  | .killed _ => s
  | _ =>
    match s.traps.lookup "EXIT" with
    | none => s
    | some action =>
      runTrap evaluate action
        { s with traps := s.traps.filter (·.1 ≠ "EXIT"), flow := .onward, command := none }

/-! ### Calls -/

/-- What the shell says when a signal has ended a program. -/
def signalWords (signal : Nat) : String :=
  match signal with
  | 1 => "Hangup"
  | 3 => "Quit"
  | 4 => "Illegal instruction"
  | 5 => "Trace/breakpoint trap"
  | 6 => "Aborted"
  | 7 => "Bus error"
  | 8 => "Floating point exception"
  | 9 => "Killed"
  | 10 => "User defined signal 1"
  | 11 => "Segmentation fault"
  | 12 => "User defined signal 2"
  | 14 => "Alarm clock"
  | 15 => "Terminated"
  | 16 => "Stack fault"
  | 24 => "CPU time limit exceeded"
  | 25 => "File size limit exceeded"
  | 26 => "Virtual timer expired"
  | 27 => "Profiling timer expired"
  | 29 => "I/O possible"
  | 30 => "Power failure"
  | 31 => "Bad system call"
  | _ => ""

/-- The last name in a path. -/
def lastName (path : Octets) : String :=
  String.ofList (path.reverse.takeWhile (· ≠ '/')).reverse

/-- What a program says, and how it ends, when its output is closed. -/
def unwritten (name : Octets) : String × Nat :=
  match lastName name with
  | "cat" => ("standard output", 1)
  | "sed" => ("couldn't close stdout", 4)
  | _ => ("write error", 1)

/-- Runs a program with the streams of the session. -/
def runProgram (program : Program) (name : Octets) (arguments : List Octets) (s : Session) :
    Session × ExitStatus :=
  let outcome := program ⟨name, arguments, s.unread? 0, s.files, s.environment⟩
  let s := { s.leave 0 outcome.left with files := { outcome.files with here := s.files.here } }
  let s := s.write 2 outcome.err
  if s.canWrite 1 || outcome.out.isEmpty then (s.write 1 outcome.out, outcome.status)
  else
    let (message, status) := unwritten name
    (s.write 2 (name ++ Octets.ofString (": " ++ message ++ ": " ++ FileError.badDescriptor.words
      ++ "\n")), .code status)

/-- Ends with the status of a program. -/
def settle (s : Session) : ExitStatus → Session
  | .code n => { s with status := n }
  | .signal n =>
    let words := signalWords n
    let s := if words = "" then s else s.write 2 (Octets.ofString (words ++ "\n"))
    { s with status := 128 + n }

/-- The program with a name, or the session after a complaint that there is none. -/
def findProgram (name : Octets) (s : Session) : Except Session Program :=
  let refused (message : String) (status : Nat) : Except Session Program :=
    .error { s.complain (name ++ ": ".toList ++ Octets.ofString message) with status }
  if name.isEmpty then refused "Permission denied" 127
  else
    match s.programs.find s.files s.searchPath name.toText with
    | .ok program => .ok program
    | .error .notFound | .error .notDirectory => refused "not found" 127
    | .error .permissionDenied => refused "Permission denied" 126
    | .error error => refused error.words 127

/-- Calls a program. -/
def callProgram (name : Octets) (arguments : List Octets) (s : Session) : Session :=
  match findProgram name s with
  | .error s => s
  | .ok program =>
    let (s, status) := runProgram program name arguments s
    settle s status

/-- Gives variables back what they were. -/
def restore (saved : List (Octets × Option Variable)) (s : Session) : Session :=
  { s with
    bindings :=
      saved.filterMap (fun (name, v?) => v?.map fun v => (name, v))
        ++ s.bindings.filter fun v => !saved.any (·.1 = v.1) }

/-- Calls a function. -/
def callFunction (evaluate : Evaluator) (body : Command) (arguments : List Octets)
    (tested : Bool) (s : Session) : Session :=
  let inner := evaluate body tested
    { s with parameters := arguments, saved := [] :: s.saved, loops := 0 }
  { restore (inner.saved.headD []) inner with
    parameters := s.parameters, saved := s.saved, loops := s.loops
    flow := if inner.flow = .returning then .onward else inner.flow }

/-- Takes the place of the shell, which ends with the program. -/
def replaceBy (arguments : List Octets) (s : Session) : Session :=
  match arguments with
  | [] => { s with status := 0 }
  | name :: arguments =>
    match findProgram name s with
    | .error s => { s with flow := .ending, traps := [] }
    | .ok program =>
      match runProgram program name arguments s with
      | (s, .code n) => { s with status := n, flow := .ending, traps := [] }
      | (s, .signal n) => { s with flow := .killed n }

/-- Runs the script in a file. -/
def source (evaluate : Evaluator) (arguments : List Octets) (s : Session) : Session :=
  match arguments with
  | [] => { s with status := 0 }
  | name :: _ =>
    if !name.contains '/' then
      Builtin.refuse s (name ++ ": not found".toList)
    else
      match s.files.readBytes name.toText with
      | .ok bytes =>
        let after := runText evaluate (Octets.ofBytes bytes) { s with status := 0 }
        if after.flow = .returning then { after with flow := .onward } else after
      | .error error =>
        Builtin.refuse s ("cannot open ".toList ++ name
          ++ Octets.ofString (": " ++ openingWords "No such file" error))

/-- Calls a command of the shell by its name. -/
def callBuiltin (evaluate : Evaluator) (name : Octets) (arguments : List Octets) (s : Session) :
    Session :=
  let inner := { s with command := some name }
  let after :=
    match String.ofList name with
    | "eval" => runText evaluate ([' '].intercalate arguments) { inner with status := 0 }
    | "." => source evaluate arguments inner
    | "exec" => replaceBy arguments inner
    | "type" => Builtin.type arguments inner
    | "wait" => { inner with status := if arguments.isEmpty then 0 else 127 }
    | "kill" =>
      match Builtin.kill arguments inner with
      | (s, some action) => runTrap evaluate action s
      | (s, none) => s
    | text =>
      match Builtin.table.lookup text with
      | some builtin => builtin arguments inner
      | none => inner
  { after with command := s.command }

/-- Calls a command that is no function. An error in one that changes the shell itself does not end the
shell here. -/
def callCommand (evaluate : Evaluator) (arguments : List Octets) (s : Session) : Session :=
  match arguments with
  | [] => { s with status := 0 }
  | ['-', 'v'] :: names =>
    match names with
    | [] => { s with status := 0 }
    | name :: _ =>
      match Builtin.origin? s name with
      | some origin => Builtin.print { s with command := some "command".toList } (origin ++ ['\n'])
      | none => { s with status := 127 }
  | ['-', 'V'] :: names => Builtin.type (names.take 1) s
  | ['-', 'p'] :: arguments => goOn arguments
  | ['-', '-'] :: arguments => goOn arguments
  | arguments => goOn arguments
where
  goOn (arguments : List Octets) : Session :=
    match arguments with
    | [] => { s with status := 0 }
    | name :: arguments =>
      if Builtin.isBuiltin name then
        let after := callBuiltin evaluate name arguments s
        if after.flow = .ending && name ≠ "exit".toList && name ≠ "exec".toList then
          { after with flow := .onward }
        else after
      else callProgram name arguments s

/-- Calls what a name stands for. -/
def call (evaluate : Evaluator) (name : Octets) (arguments : List Octets) (tested : Bool)
    (s : Session) : Session :=
  match s.functions.lookup name with
  | some body => callFunction evaluate body arguments tested s
  | none =>
    if name = "command".toList then callCommand evaluate arguments s
    else if Builtin.isBuiltin name then callBuiltin evaluate name arguments s
    else callProgram name arguments s

/-! ### Simple commands -/

/-- Commands whose arguments can be assignments, which are not split. -/
def declares (fields : List Octets) : Bool :=
  fields = ["export".toList] || fields = ["readonly".toList] || fields = ["local".toList]

/-- Works out arguments of which some are assignments. -/
def expandDeclarations (evaluate : Evaluator) : List Word → Session → List Octets × Session
  | [], s => ([], s)
  | word :: rest, s =>
    let (fields, s) :=
      match assignment? word with
      | none => expandFields evaluate word s
      | some (name, value) =>
        let (glyphs, s) := expandText evaluate value s
        ([name ++ '=' :: bytesIn glyphs], s)
    if !s.isOnward then ([], s)
    else
      let (others, s) := expandDeclarations evaluate rest s
      (fields ++ others, s)

/-- Works out the words of a command. -/
def expandCall (evaluate : Evaluator) : List Word → Session → List Octets × Session
  | [], s => ([], s)
  | word :: rest, s =>
    let (fields, s) := expandFields evaluate word s
    if !s.isOnward then ([], s)
    else if fields.isEmpty then expandCall evaluate rest s
    else
      let (others, s) :=
        if declares fields then expandDeclarations evaluate rest s
        else expandWords evaluate rest s
      (fields ++ others, s)

/-- Makes an assignment in front of a command. -/
def assignWord (evaluate : Evaluator) (exported : Bool) (s : Session)
    (assignment : Octets × Word) : Session :=
  if !s.isOnward then s
  else
    let (name, word) := assignment
    let (glyphs, s) := expandText evaluate word s
    if !s.isOnward then s
    else
      let s := s.assign name (bytesIn glyphs)
      if exported && s.isOnward then
        s.setVariable name { s.variableNamed name with exported := true }
      else s

/-- Shows a call before it is run, if that is wanted. -/
def trace (names : List Octets) (fields : List Octets) (streams : List (Nat × Stream))
    (s : Session) : Session :=
  if !s.options.contains 'x' then s
  else
    let assignments := names.map fun name => name ++ '=' :: (s.value? name).getD []
    let sign := (s.value? "PS4".toList).getD ['+', ' ']
    let text := sign ++ [' '].intercalate (assignments ++ fields) ++ ['\n']
    { { s with streams }.write 2 text with streams := s.streams }

/-- Runs a simple command. Its assignments stay if it is one of those that change the shell itself, or
if there is no command at all. -/
def runSimple (evaluate : Evaluator) (assignments : List (Octets × Word)) (words : List Word)
    (redirections : List Redirection) (tested : Bool) (start : Session) : Session :=
  let (fields, s) := expandCall evaluate words { start with substituted := 0 }
  if !s.isOnward then s
  else
    let special := fields.head?.any fun name => specialNames.contains (String.ofList name)
    match redirectAll evaluate redirections s with
    | .error failed =>
      { failed with
        streams := s.streams
        flow := if special && failed.isOnward then .ending else failed.flow }
    | .ok redirected =>
      let stays := special || fields.isEmpty
      let names := assignments.map (·.1)
      let old := names.map fun name => (name, s.bindings.lookup name)
      let assigned := assignments.foldl (assignWord evaluate (!stays)) redirected
      if !assigned.isOnward then { assigned with streams := s.streams }
      else
        let traced := trace names fields s.streams assigned
        let after :=
          match fields with
          | [] => { traced with status := traced.substituted }
          | name :: arguments => call evaluate name arguments tested traced
        let after := if stays then after else restore old after
        if fields = ["exec".toList] then after else { after with streams := s.streams }

/-! ### Loops -/

/-- What follows a round of a loop. -/
inductive AfterRound where
  | goOn
  | nextRound
  | leave
deriving DecidableEq

/-- What follows a round, and the session in which it does. -/
def afterRound (s : Session) : AfterRound × Session :=
  match s.flow with
  | .onward => (.goOn, s)
  | .breaking (n + 2) => (.leave, { s with flow := .breaking (n + 1) })
  | .breaking _ => (.leave, { s with flow := .onward })
  | .continuing (n + 2) => (.leave, { s with flow := .continuing (n + 1) })
  | .continuing _ => (.nextRound, { s with flow := .onward })
  | _ => (.leave, s)

/-- Runs something as a loop. -/
def inLoop (s : Session) (go : Session → Session) : Session :=
  { go { s with loops := s.loops + 1 } with loops := s.loops }

/-- How often a loop is run at most. -/
def maxRounds : Nat := 1000000000

/-- Repeats a body as long as its test comes out as it should. The first argument bounds how often;
`status` is that of the body so far. -/
def repeatRounds (evaluate : Evaluator) (wanted : Bool) (test body : Command) (tested : Bool) :
    Nat → (status : Nat) → Session → Session
  | 0, status, s => { s with status }
  | rounds + 1, status, s =>
    match afterRound (evaluate test true s) with
    | (.leave, s) =>
      match s.flow with
      | .onward | .breaking _ | .continuing _ => { s with status }
      | _ => s
    | (.nextRound, s) => repeatRounds evaluate wanted test body tested rounds status s
    | (.goOn, s) =>
      if (s.status = 0) ≠ wanted then { s with status }
      else
        match afterRound (evaluate body tested s) with
        | (.leave, s) => s
        | (_, s) => repeatRounds evaluate wanted test body tested rounds s.status s

/-- Runs a body once for each of some values. -/
def eachRound (evaluate : Evaluator) (name : Octets) (body : Command) (tested : Bool) :
    List Octets → Session → Session
  | [], s => s
  | value :: rest, s =>
    let s := s.assign name value
    if !s.isOnward then s
    else
      match afterRound (evaluate body tested s) with
      | (.leave, s) => s
      | (_, s) => eachRound evaluate name body tested rest s

/-! ### Pipelines -/

/-- The last bytes of a text. -/
def lastOf (n : Nat) (text : Octets) : Octets := text.drop (text.length - n)

/-- Runs commands, each in a shell of its own and with the output of the one before as its input. Gives
what the first one left of its input. A command whose output is not taken is stopped: so much of its
own input stays. -/
def runPipeline (evaluate : Evaluator) (tested : Bool) :
    (input? : Option Octets) → List Command → Session → Octets × Session
  | _, [], s => ([], s)
  | input?, [c], s =>
    let (left, _, s) := s.piped input? false (evaluate (.subshell c []) tested)
    (left, s)
  | input?, c :: rest, s =>
    let before := (s.unread? 0).getD []
    let (left, output, s) := s.piped input? true (evaluate (.subshell c []) tested)
    let (untaken, s) := runPipeline evaluate tested (some output) rest s
    if untaken.length ≤ pipeCapacity then (left, s)
    else
      match input? with
      | some input => (lastOf untaken.length input, s)
      | none => (left, s.leave 0 (lastOf untaken.length before))

/-! ### Commands -/

/-- Ends the shell after a failure that was not expected, if that is wanted. -/
def checked (tested : Bool) (s : Session) : Session :=
  if s.options.contains 'e' && !tested && s.isOnward && s.status ≠ 0 then { s with flow := .ending }
  else s

/-- Whether a word of a case matches a text, and the first of the cases that has one. -/
def chooseCase (evaluate : Evaluator) (subject : Octets) :
    List (List Word × Command) → Session → Option Command × Session
  | [], s => (none, s)
  | (patterns, body) :: rest, s =>
    let (found, s) := anyMatches patterns s
    if found then (some body, s)
    else if s.isOnward then chooseCase evaluate subject rest s
    else (none, s)
where
  anyMatches : List Word → Session → Bool × Session
    | [], s => (false, s)
    | pattern :: rest, s =>
      let (glyphs, s) := expandText evaluate pattern s
      if !s.isOnward then (false, s)
      else if wildcardMatches glyphs subject then (true, s)
      else anyMatches rest s

/-- Runs a command, given how those within it are run. -/
def step (evaluate : Evaluator) : Evaluator
  | .nothing, _, s => { s with status := 0 }
  | .simple line assignments words redirections, tested, s =>
    checked tested (runSimple evaluate assignments words redirections tested { s with line })
  | .pipeline commands, tested, s =>
    checked tested (runPipeline evaluate tested none commands s).2
  | .inverted c, _, s =>
    let s := evaluate c true s
    if s.isOnward then { s with status := if s.status = 0 then 1 else 0 } else s
  | .onSuccess first second, tested, s =>
    let s := evaluate first true s
    if s.isOnward && s.status = 0 then evaluate second tested s else s
  | .onFailure first second, tested, s =>
    let s := evaluate first true s
    if s.isOnward && s.status ≠ 0 then evaluate second tested s else s
  | .sequence first second, tested, s =>
    let s := evaluate first tested s
    if s.isOnward then evaluate second tested s else s
  | .background c, _, s =>
    let s := s.inSubshell fun s =>
      atEnd evaluate (evaluate c false (s.setStream 0 (some .nowhere)))
    if s.isOnward then { s with status := 0 } else s
  | .subshell c redirections, tested, s =>
    checked tested (s.inSubshell fun s =>
      match redirectAll evaluate redirections s with
      | .error failed => failed
      | .ok s => atEnd evaluate (evaluate c tested s))
  | .group c redirections, tested, s =>
    s.withStreams fun s =>
      match redirectAll evaluate redirections s with
      | .error failed => failed
      | .ok s => evaluate c tested s
  | .conditional test yes no, tested, s =>
    let s := evaluate test true s
    if !s.isOnward then s else evaluate (if s.status = 0 then yes else no) tested s
  | .loop wanted test body, tested, s =>
    inLoop s (repeatRounds evaluate wanted test body tested maxRounds 0)
  | .each name words body, tested, s =>
    let (values, s) := expandWords evaluate words s
    if !s.isOnward then s
    else if values.isEmpty then { s with status := 0 }
    else inLoop s (eachRound evaluate name body tested values)
  | .choice subject cases, tested, s =>
    let (glyphs, s) := expandText evaluate subject s
    if !s.isOnward then s
    else
      match chooseCase evaluate (bytesIn glyphs) cases s with
      | (some body, s) => evaluate body tested s
      | (none, s) => if s.isOnward then { s with status := 0 } else s
  | .function name body, _, s =>
    { s with functions := (name, body) :: s.functions.filter (·.1 ≠ name), status := 0 }

/-- Runs commands that lie in each other at most so deep. Anything deeper ends the shell. -/
def run : (depth : Nat) → Evaluator
  | 0 => fun _ _ s => { s with status := 2, flow := .ending }
  | depth + 1 => step (run depth)

/-- How deep commands may lie in each other. -/
def maxDepth : Nat := 2000

/-- Runs a whole script, and what is to be done at its end. -/
def runScript (text : Octets) (s : Session) : Session :=
  atEnd (run maxDepth) (runText (run maxDepth) text s)

end ConnectorSchema.Filter.Shell
