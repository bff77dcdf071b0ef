import ConnectorSchema.Filter.Shell.Condition
import ConnectorSchema.Filter.Shell.Formatted
import ConnectorSchema.Filter.Shell.Token

/-!
The commands that a shell has of its own, as far as they run no other commands.
-/

namespace ConnectorSchema.Filter.Shell.Builtin

/-- A command as a function of its arguments. -/
abbrev Action := List Octets → Session → Session

def finish (s : Session) (status : Nat) : Session := { s with status }

/-- Fails with a complaint. In the commands that change the shell itself this ends it. -/
def refuse (s : Session) (message : Octets) : Session :=
  let special := s.command.any fun name => specialNames.contains (String.ofList name)
  let s := s.complain message
  if special then { s with status := 2, flow := .ending } else { s with status := 2 }

/-- Writes to the output, which may be closed. -/
def print (s : Session) (text : Octets) : Session :=
  if s.canWrite 1 then finish (s.write 1 text) 0
  else
    let name := s.command.getD []
    finish (s.complain (name ++ ": I/O error".toList)) 1

/-- The number that an argument spells. -/
def natural (s : Session) (text : Octets) : Except Session Nat :=
  match Octets.number? text with
  | some n => .ok n
  | none => .error (refuse s ("Illegal number: ".toList ++ text))

/-- The number that the first argument spells, if there is one. -/
def firstNumber (s : Session) (standard : Nat) (arguments : List Octets) : Except Session Nat :=
  match arguments with
  | [] => .ok standard
  | text :: _ => natural s text

/-- Runs one of two ways out. -/
def settled : Except Session Session → Session
  | .ok s => s
  | .error s => s

def echo : Action := fun arguments s =>
  let (arguments, ending) : List Octets × Octets :=
    match arguments with
    | ['-', 'n'] :: rest => (rest, [])
    | arguments => (arguments, ['\n'])
  let (text, goesOn) := unescape ([' '].intercalate arguments)
  print s (if goesOn then text ++ ending else text)

def printf : Action := fun arguments s =>
  let arguments :=
    match arguments with
    | ['-', '-'] :: rest => rest
    | arguments => arguments
  match arguments with
  | [] => refuse s "usage: printf format [arg ...]".toList
  | format :: arguments =>
    let f := Formatted.of format arguments
    let s := f.complaints.foldl Session.complain s
    let s := if f.done.isEmpty then s else print s f.done.reverse
    if f.broken then refuse { s with command := none, streams := s.streams.filter (·.1 ≠ 2) } []
    else if s.status ≠ 0 && !f.done.isEmpty then s
    else finish s (if f.complaints.isEmpty then 0 else 1)

def condition : Action := fun arguments s =>
  let bracketed := s.command = some ['[']
  if bracketed && arguments.getLast? ≠ some [']'] then refuse s "missing ]".toList
  else
    match Condition.holds s.files (if bracketed then arguments.dropLast else arguments) with
    | .ok found => finish s (if found then 0 else 1)
    | .error message => refuse s message

/-! ### Reading lines -/

/-- A byte of a line, and whether it may end a field. -/
abbrev LineByte := Char × Bool

/-- The bytes of the next line, whether it has an end, and what follows. Unless the line is `raw`, a
backslash protects the byte after it. -/
def takeLine (raw : Bool) : (done : List LineByte) → Octets → List LineByte × Bool × Octets
  | done, [] => (done.reverse, false, [])
  | done, '\n' :: rest => (done.reverse, true, rest)
  | done, '\\' :: c :: rest =>
    if raw then takeLine raw (('\\', true) :: done) (c :: rest)
    else if c = '\n' then takeLine raw done rest
    else takeLine raw ((c, false) :: done) rest
  | done, ['\\'] => ((if raw then ('\\', true) :: done else done).reverse, false, [])
  | done, c :: rest => if c = '\x00' then takeLine raw done rest else takeLine raw ((c, true) :: done) rest

/-- Whether a byte separates fields, and whether it is a blank that does. -/
def separates (separators : Octets) (b : LineByte) : Bool := b.2 && separators.contains b.1

def isBlankSeparator (separators : Octets) (b : LineByte) : Bool :=
  separates separators b && (b.1 = ' ' || b.1 = '\t' || b.1 = '\n')

/-- The last of the fields keeps what separates others in it, but not blanks at its end, nor a single
separator there. -/
def lastField (separators : Octets) (line : List LineByte) : Octets :=
  let dropBlanks (line : List LineByte) : List LineByte :=
    (line.reverse.dropWhile (isBlankSeparator separators)).reverse
  let line := dropBlanks line
  let shorter := dropBlanks line.dropLast
  match line.getLast? with
  | some b =>
    if separates separators b && !shorter.any (separates separators) then shorter.map (·.1)
    else line.map (·.1)
  | none => []

/-- The values for names, one field for each. -/
def fieldValues (separators : Octets) : (names : Nat) → List LineByte → List Octets
  | 0, _ => []
  | n + 1, line =>
    let line := line.dropWhile (isBlankSeparator separators)
    if n = 0 then [lastField separators line]
    else
      let field := line.takeWhile fun b => !separates separators b
      let rest := (line.drop field.length).dropWhile (isBlankSeparator separators)
      let rest :=
        match rest with
        | b :: after => if separates separators b then after else rest
        | [] => []
      field.map (·.1) :: fieldValues separators n rest

def read : Action := fun arguments s =>
  let options := arguments.takeWhile fun a => a = ['-', 'r']
  match arguments.drop options.length with
  | [] => refuse s "arg count".toList
  | names =>
    match s.unread? 0 with
    | none => names.foldl (fun s name => s.assign name []) (finish s 1)
    | some text =>
      let (line, ended, rest) := takeLine (!options.isEmpty) [] text
      let s := finish (s.leave 0 rest) (if ended then 0 else 1)
      let values := fieldValues s.separators names.length line
      (names.zip values).foldl (fun s (name, value) =>
        if !isName name then refuse s (name ++ ": bad variable name".toList) else s.assign name value) s

/-! ### The shell itself -/

def shift : Action := fun arguments s =>
  settled do
    let n ← firstNumber s 1 arguments
    if s.parameters.length < n then .error (refuse s "can't shift that many".toList)
    else .ok (finish { s with parameters := s.parameters.drop n } 0)

def exit : Action := fun arguments s =>
  settled do
    let n ← firstNumber s s.status arguments
    .ok { s with status := n % 256, flow := .ending }

def return_ : Action := fun arguments s =>
  settled do
    let n ← firstNumber s s.status arguments
    .ok { s with status := n % 256, flow := .returning }

/-- Leaves loops, or goes on with the next round of one. -/
def leaveLoops (flow : Nat → Flow) : Action := fun arguments s =>
  settled do
    let n ← firstNumber s 1 arguments
    if n = 0 then .error (refuse s ("Illegal number: ".toList ++ arguments.headD []))
    else if s.loops = 0 then .ok (finish s 0)
    else .ok { s with status := 0, flow := flow (min n s.loops) }

/-- The name and the value in an argument such as `name=value`. -/
def nameAndValue (argument : Octets) : Octets × Option Octets := Octets.cutAt '=' argument

/-- Changes variables that are named, perhaps with new values. -/
def declare (change : Variable → Variable) : Action := fun arguments s =>
  let step (s : Session) (argument : Octets) : Session :=
    if !s.isOnward then s
    else
      let (name, value?) := nameAndValue argument
      if !isName name then refuse s (name ++ ": bad variable name".toList)
      else
        let s :=
          match value? with
          | some value => s.assign name value
          | none => s
        if s.isOnward then s.setVariable name (change (s.variableNamed name)) else s
  arguments.foldl step (finish s 0)

def local_ : Action := fun arguments s =>
  match s.saved with
  | [] => refuse { s with command := some "local".toList } "not in a function".toList
  | top :: others =>
    let step (state : List (Octets × Option Variable) × Session) (argument : Octets) :
        List (Octets × Option Variable) × Session :=
      let (top, s) := state
      let (name, value?) := nameAndValue argument
      let top := if (top.lookup name).isSome then top else (name, s.bindings.lookup name) :: top
      match value? with
      | some value => (top, s.assign name value)
      | none => (top, s)
    let (top, s) := arguments.foldl step (top, finish s 0)
    { s with saved := top :: others }

def unset : Action := fun arguments s =>
  let (functions, names) :=
    match arguments with
    | ['-', 'f'] :: rest => (true, rest)
    | ['-', 'v'] :: rest => (false, rest)
    | rest => (false, rest)
  let step (s : Session) (name : Octets) : Session :=
    if !s.isOnward then s
    else if functions then { s with functions := s.functions.filter (·.1 ≠ name) }
    else if (s.variableNamed name).readOnly then refuse s (name ++ ": is read only".toList)
    else { s with bindings := s.bindings.filter (·.1 ≠ name) }
  names.foldl step (finish s 0)

/-- The letters of options that the shell knows. -/
def optionLetters : List Char :=
  ['a', 'b', 'C', 'e', 'E', 'f', 'I', 'i', 'm', 'n', 'u', 'v', 'V', 'x']

/-- Turns options on or off. -/
def setOptions (s : Session) (on : Bool) (letters : Octets) : Except Session Session :=
  letters.foldlM (fun s c =>
    if !optionLetters.contains c then
      .error (refuse s ("Illegal option ".toList ++ [if on then '-' else '+', c]))
    else
      let others := s.options.filter (· ≠ c)
      .ok { s with options := if on then c :: others else others }) s

/-- Options by their long names. -/
def longOptions : List (String × Char) :=
  [("errexit", 'e'), ("noglob", 'f'), ("nounset", 'u'), ("xtrace", 'x'), ("allexport", 'a'),
    ("noclobber", 'C'), ("noexec", 'n'), ("verbose", 'v')]

/-- Reads options and then parameters. The first argument bounds the number of steps. -/
def setSteps : Nat → List Octets → Session → Except Session Session
  | 0, _, s => .ok s
  | _, [], s => .ok s
  | steps + 1, argument :: rest, s =>
    match argument with
    | ['-', '-'] => .ok { s with parameters := rest }
    | [sign, 'o'] =>
      if sign ≠ '-' && sign ≠ '+' then .ok { s with parameters := argument :: rest }
      else
        match rest with
        | [] => .ok s
        | name :: rest =>
          match longOptions.lookup (String.ofList name) with
          | some letter => do setSteps steps rest (← setOptions s (sign = '-') [letter])
          | none => .error (refuse s ("Illegal option ".toList ++ [sign, 'o', ' '] ++ name))
    | '-' :: c :: letters => do setSteps steps rest (← setOptions s true (c :: letters))
    | '+' :: c :: letters => do setSteps steps rest (← setOptions s false (c :: letters))
    | _ => .ok { s with parameters := argument :: rest }

def set : Action := fun arguments s => settled (setSteps arguments.length arguments (finish s 0))

/-! ### Signals -/

/-- Signals by name and by number. -/
def signalNumbers : List (String × Nat) :=
  signalNames.flatMap fun (n, name) => [((name.drop 3).toString, n), (toString n, n)]

/-- Signals that do nothing to a program that does not ask for them. -/
def harmless : List Nat := [17, 18, 23, 28]

/-- The name of a condition on which a trap waits. -/
def trapName? (text : Octets) : Option String :=
  match String.ofList text with
  | "0" | "EXIT" => some "EXIT"
  | name => (signalNumbers.lookup name).map toString

def trap : Action := fun arguments s =>
  let arguments :=
    match arguments with
    | ['-', '-'] :: rest => rest
    | arguments => arguments
  let (action?, conditions) : Option Octets × List Octets :=
    match arguments with
    | [] => (none, [])
    | [condition] => (none, [condition])
    | ['-'] :: conditions => (none, conditions)
    | action :: conditions =>
      if (Octets.number? action).isSome then (none, action :: conditions)
      else (some action, conditions)
  let step (s : Session) (condition : Octets) : Session :=
    match trapName? condition with
    | some name =>
      { s with
        traps := action?.toList.map (fun a => (name, a)) ++ s.traps.filter (·.1 ≠ name) }
    | none => finish (s.write 2 ("trap: ".toList ++ condition ++ ": bad trap\n".toList)) 1
  conditions.foldl step (finish s 0)

/-- What `kill` is told to do. -/
structure Killing where
  signal : Nat
  targets : List Octets

def killUsage : Octets :=
  ("Usage: kill [-s sigspec | -signum | -sigspec] [pid | job]... or\n"
    ++ "kill -l [exitstatus]").toList

/-- Reads the arguments of `kill`. -/
def killing (s : Session) (arguments : List Octets) : Except Session Killing :=
  match arguments with
  | [] => .error (refuse s killUsage)
  | ['-', 's'] :: name :: targets =>
    match signalNumbers.lookup (String.ofList name) with
    | some signal => .ok ⟨signal, targets⟩
    | none => .error (refuse s ("invalid signal number or name: ".toList ++ name))
  | ['-', '-'] :: targets => .ok ⟨15, targets⟩
  | ('-' :: name) :: targets =>
    if name = ['0'] then .ok ⟨0, targets⟩
    else
      match signalNumbers.lookup (String.ofList name) with
      | some signal => .ok ⟨signal, targets⟩
      | none => .error (refuse s ("Illegal option -".toList ++ name.take 1))
  | targets => .ok ⟨15, targets⟩

/-- What is to be done after a signal to the shell itself. -/
def receive (s : Session) (signal : Nat) : Session × Option Octets :=
  let trapped := if signal = 9 || signal = 19 then none else s.traps.lookup (toString signal)
  match trapped with
  | some action => (finish s 0, if action.isEmpty then none else some action)
  | none =>
    if signal = 0 || harmless.contains signal then (finish s 0, none)
    else ({ s with flow := .killed signal }, none)

/-- Sends a signal; what a trap wants done comes back. -/
def kill (arguments : List Octets) (s : Session) : Session × Option Octets :=
  match arguments with
  | [['-', 'l'], status] =>
    let n := Octets.number status
    let n := if 128 < n then n - 128 else n
    match signalNames.lookup n with
    | some name => (print s (name.toList.drop 3 ++ ['\n']), none)
    | none => (refuse s ("invalid signal number or exit status: ".toList ++ status), none)
  | arguments =>
    match killing s arguments with
    | .error s => (s, none)
    | .ok k =>
      match k.targets with
      | [] => (refuse s killUsage, none)
      | target :: _ =>
        if target = ownNumber || target = ['0'] then receive s k.signal
        else if (Octets.number? (if target.head? = some '-' then target.tail else target)).isNone then
          (refuse s ("Illegal number: ".toList ++ target), none)
        else (finish (s.complain "No such process\n".toList) 1, none)

/-! ### Files -/

/-- The path of the working directory. -/
def workingPath (s : Session) : Octets :=
  Octets.ofString ("/" ++ "/".intercalate s.files.here)

def cd : Action := fun arguments s =>
  let (path, shows) : Octets × Bool :=
    match arguments with
    | ['-'] :: _ => ((s.value? "OLDPWD".toList).getD [], true)
    | path :: _ => (path, false)
    | [] => ((s.value? "HOME".toList).getD [], false)
  match s.files.locate .followed path.toText with
  | .ok location =>
    if location.node?.any Tree.isDir then
      let old := workingPath s
      let s := { s with files := { s.files with here := location.place } }
      let s := s.assign "OLDPWD".toList old
      let s := s.assign "PWD".toList (workingPath s)
      if shows then print s (workingPath s ++ ['\n']) else finish s 0
    else refuse s ("can't cd to ".toList ++ path)
  | .error _ => refuse s ("can't cd to ".toList ++ path)

def pwd : Action := fun _ s => print s (workingPath s ++ ['\n'])

/-! ### Names -/

/-- The commands that are here, by their names. -/
def table : List (String × Action) := [
  (":", fun _ s => finish s 0), ("true", fun _ s => finish s 0), ("false", fun _ s => finish s 1),
  ("echo", echo), ("printf", printf), ("test", condition), ("[", condition), ("read", read),
  ("shift", shift), ("exit", exit), ("return", return_), ("break", leaveLoops .breaking),
  ("continue", leaveLoops .continuing), ("export", declare fun v => { v with exported := true }),
  ("readonly", declare fun v => { v with readOnly := true }), ("local", local_), ("unset", unset),
  ("set", set), ("trap", trap), ("cd", cd), ("pwd", pwd), ("umask", fun _ s => print s "0022\n".toList),
  ("alias", fun _ s => finish s 0), ("hash", fun _ s => finish s 0)]

/-- The commands of the shell that run others. -/
def runners : List String := [".", "command", "eval", "exec", "kill", "type", "wait"]

def isBuiltin (name : Octets) : Bool :=
  (table.lookup (String.ofList name)).isSome || runners.contains (String.ofList name)

/-- Where a name comes from, as `command -v` says it. -/
def origin? (s : Session) (name : Octets) : Option Octets :=
  let text := String.ofList name
  if keywords.contains text || isBuiltin name || (s.functions.lookup name).isSome then some name
  else
    match s.programs.find s.files s.searchPath name.toText with
    | .ok _ => some (if name.contains '/' then name else "/usr/bin/".toList ++ name)
    | .error _ => none

/-- What kind of command each name stands for. -/
def type : Action := fun names s =>
  let step (s : Session) (name : Octets) : Session :=
    let text := String.ofList name
    let (message, found) : String × Bool :=
      if keywords.contains text then (" is a shell keyword", true)
      else if (s.functions.lookup name).isSome then (" is a shell function", true)
      else if specialNames.contains text then (" is a special shell builtin", true)
      else if isBuiltin name then (" is a shell builtin", true)
      else
        match origin? s name with
        | some path => (" is " ++ String.ofList path, true)
        | none => (": not found", false)
    let after := print s (name ++ message.toList ++ ['\n'])
    if found then finish after s.status else finish after 127
  names.foldl step (finish s 0)

end ConnectorSchema.Filter.Shell.Builtin
