import ConnectorSchema.CommandLine.Settings

/-!
Reading the arguments, one by one. An option takes its value from the same argument or from the
next; a value from the next argument is looked at only when something else is said or the arguments
end. After `--` nothing is an option any more.
-/

namespace ConnectorSchema.CommandLine

/-- What ends the reading without a request. -/
inductive Interruption where
  | usage (e : UsageError)
  /-- Help about a command or about all; it is no failure if somebody asked for it. -/
  | help (verb? : Option Verb) (wanted : Bool)
  | version
deriving DecidableEq, Repr

structure Reading where
  verb? : Option Verb := none
  /-- Full reports were asked for in front of the command's name. -/
  verboseBefore : Bool := false
  settings : Settings := {}
  /-- An option whose value is still to come or still to be looked at. -/
  pending? : Option (Parameter × Option String) := none
  /-- `--` has been read. -/
  plain : Bool := false

namespace Reading

def refuse {α : Type} (e : UsageError) : Except Interruption α := .error (.usage e)

def parameters (r : Reading) : List Parameter :=
  match r.verb? with
  | none => leadingParameters
  | some verb => verb.parameters

/-- Looks at the value of the pending option. -/
def settle (r : Reading) : Except Interruption Reading :=
  match r.pending? with
  | none => .ok r
  | some (p, none) => refuse (.valueMissing p)
  | some (p, some value) =>
    match r.settings.give p value with
    | .ok settings => .ok { r with settings, pending? := none }
    | .error e => refuse e

def raise (r : Reading) (p : Parameter) : Except Interruption Reading := do
  let r ← r.settle
  match p with
  | .help => .error (.help r.verb? true)
  | .version => .error .version
  | p =>
    match r.settings.raise p with
    | .ok settings => return { r with settings }
    | .error e => refuse e

/-- Gives a value that stands in the same argument. -/
def give (r : Reading) (p : Parameter) (value : String) : Except Interruption Reading := do
  let r ← r.settle
  { r with pending? := some (p, some value) }.settle

/-- Leaves a parameter to be looked at later. -/
def await (r : Reading) (p : Parameter) (value? : Option String) : Except Interruption Reading := do
  let r ← r.settle
  return { r with pending? := some (p, value?) }

/-- Reads what follows two dashes. -/
def takeLong (r : Reading) (chars : List Char) : Except Interruption Reading :=
  let name := String.ofList (chars.takeWhile (· ≠ '='))
  match r.parameters.find? (·.long? = some name) with
  | none => refuse (.unexpected ("--" ++ name))
  | some p =>
    match p.placeholder?, chars.dropWhile (· ≠ '=') with
    | some _, _ :: value => r.give p (String.ofList value)
    | some _, [] => r.await p none
    | none, _ :: value => refuse (.valueUnexpected p (String.ofList value))
    | none, [] => r.raise p

/-- Reads what follows one dash: flags, and perhaps an option with the rest as its value. -/
def takeShort (r : Reading) : List Char → Except Interruption Reading
  | [] => .ok r
  | c :: rest =>
    match r.parameters.find? (·.short? = some c) with
    | none => refuse (.unexpected (String.ofList ['-', c]))
    | some p =>
      match p.placeholder?, rest with
      | some _, [] => r.await p none
      | some _, '=' :: value => r.give p (String.ofList value)
      | some _, value => r.give p (String.ofList value)
      | none, rest =>
        match r.raise p with
        | .ok r => takeShort r rest
        | .error i => .error i

/-- Whether a word names a command, the one that gives help among them. -/
def isCommandName (word : String) : Bool := word = "help" || (Verb.ofName? word).isSome

/-- Whether a file has been named. -/
def hasFile (r : Reading) : Bool :=
  r.settings.has .file || r.pending?.any fun (p, _) => p = .file

/-- Reads an argument that is no option. -/
def takePlain (r : Reading) (argument : String) : Except Interruption Reading :=
  match r.verb? with
  | none =>
    match r.plain, Verb.ofName? argument with
    | false, some verb => .ok { verb? := some verb, verboseBefore := r.settings.verbose }
    | _, _ =>
      refuse (if isCommandName argument then .unexpected argument else .unknownCommand argument)
  | some verb =>
    if .file ∈ verb.parameters && !r.hasFile then r.await .file (some argument)
    else refuse (.unexpected argument)

def take (r : Reading) (argument : String) : Except Interruption Reading :=
  if r.plain then r.takePlain argument
  else
    match argument.toList with
    | ['-', '-'] => .ok { r with plain := true }
    | '-' :: '-' :: chars => r.takeLong chars
    | '-' :: c :: chars => r.takeShort (c :: chars)
    | _ =>
      match r.pending? with
      | some (p, none) => .ok { r with pending? := some (p, some argument) }
      | _ => r.takePlain argument

/-- Help about the command that the names lead to. -/
def helpAbout : List String → Interruption
  | [] => .help none true
  | "help" :: _ => .help none true
  | name :: rest =>
    match Verb.ofName? name, rest with
    | some verb, [] => .help (some verb) true
    | some _, name :: _ => .usage (.unknownCommand name)
    | none, _ => .usage (.unknownCommand name)

def takeAll (r : Reading) : List String → Except Interruption Reading
  | [] => .ok r
  | argument :: rest =>
    if argument = "help" && r.verb?.isNone && !r.plain then .error (helpAbout rest)
    else
      match r.take argument with
      | .ok r => takeAll r rest
      | .error i => .error i

/-- The request that is meant once all arguments are read. -/
def finish (r : Reading) (environment : Environment) : Except Interruption Request := do
  let r ← r.settle
  match r.verb? with
  | none => if r.settings.verbose then refuse .noCommand else .error (.help none false)
  | some verb =>
    match verb.parameters.foldlM (Settings.giveFrom environment) r.settings with
    | .error e => refuse e
    | .ok settings =>
      match settings.command verb with
      | .error e => refuse e
      | .ok command => return ⟨command, r.verboseBefore || settings.verbose⟩

end Reading

/-- The request that the arguments make. -/
def Request.ofArguments (environment : Environment) (arguments : List String) :
    Except Interruption Request := do
  ((← ({} : Reading).takeAll arguments).finish environment)

end ConnectorSchema.CommandLine
