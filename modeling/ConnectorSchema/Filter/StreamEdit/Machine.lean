import ConnectorSchema.Filter.Outcome
import ConnectorSchema.Filter.Escape
import ConnectorSchema.Filter.StreamEdit.Substitute

/-!
The stream editor at work: it takes one line after another through its script. A second line is kept
aside, and what is to follow a line waits until the line has been written.
-/

namespace ConnectorSchema.Filter.StreamEdit

/-- A range of lines that has begun. -/
inductive OpenRange where
  | untilLine (n : Nat)
  | untilFound

/-- What waits to be written after a line. -/
inductive Waiting where
  | text (t : Octets)
  | file (name : Octets)

structure Machine where
  line : Line
  kept : Line
  /-- The number of the line. -/
  number : Nat
  /-- The lines that have not been read. -/
  ahead : List Line
  /-- What has been written, the last piece in front. -/
  out : List Octets
  /-- Whether the last line was written without its end, which is added when more follows. -/
  owed : Bool
  waiting : List Waiting
  replaced : Bool
  ranges : List (Nat × OpenRange)
  lastSought : Option Pattern.Whole
  /-- What was written to files, the last piece in front. -/
  written : List (Octets × Octets)
  /-- Lines of files that have not been read. -/
  unread : List (Octets × List Line)
  failure : Option String

/-- How the editor was started. -/
structure Options where
  quiet : Bool
  /-- The byte that ends lines. -/
  ending : Char
  width : Nat
  task : Task

namespace Machine

/-! ### Writing -/

def write (m : Machine) (o : Options) (text : Octets) : Machine :=
  let piece := if m.owed then o.ending :: text else text
  { m with out := piece :: m.out, owed := false }

/-- Writes a line, with its end if it has one. -/
def writeLine (m : Machine) (o : Options) (line : Line) : Machine :=
  if line.ended then m.write o (line.text ++ [o.ending])
  else { m.write o line.text with owed := true }

/-- Adds to a file. Two names stand for the streams of the program itself. -/
def writeTo (m : Machine) (o : Options) (name : Octets) (line : Line) : Machine :=
  let text := if line.ended then line.text ++ [o.ending] else line.text
  if name = "/dev/stdout".toList then { m with out := text :: m.out }
  else { m with written := (name, text) :: m.written }

/-- The text up to the end of its first line. -/
def firstLine (o : Options) (text : Octets) : Octets := text.takeWhile (· ≠ o.ending)

/-- The bytes that show a byte. -/
def showByte (c : Char) : Octets :=
  match escapeLetter? c with
  | some letter => ['\\', letter]
  | none => if 32 ≤ c.toNat && c.toNat < 127 then [c] else '\\' :: octalDigits c

/-- A line with every byte shown, in pieces of a width that end with a backslash. -/
def listing (width : Nat) (text : Octets) : Octets :=
  let step (state : Nat × Octets) (c : Char) : Nat × Octets :=
    let shown := showByte c
    if 0 < width && width - 1 < state.1 + shown.length then
      (shown.length, shown.reverse ++ '\n' :: '\\' :: state.2)
    else (state.1 + shown.length, shown.reverse ++ state.2)
  (text.foldl step (0, [])).2.reverse ++ ['$', '\n']

/-- Writes what has waited for the end of a line. -/
def flush (m : Machine) (o : Options) : Machine :=
  let put (m : Machine) (w : Waiting) : Machine :=
    match w with
    | .text t => m.write o t
    | .file name =>
      let text := if name = "/dev/stdin".toList then [] else (o.task.bytesAt name).toOption.getD []
      m.write o text
  { m.waiting.reverse.foldl put m with waiting := [] }

/-! ### Reading -/

/-- The next line comes in place of the one at hand, or is put behind it. -/
def readLine? (m : Machine) (o : Options) (behind : Bool) : Option Machine :=
  match m.ahead with
  | [] => none
  | next :: rest =>
    let m := m.flush o
    let line :=
      if behind then { next with text := m.line.text ++ o.ending :: next.text } else next
    some { m with line, ahead := rest, number := m.number + 1, replaced := false }

def atLast (m : Machine) : Bool := m.ahead.isEmpty

/-! ### Choosing lines -/

/-- The pattern that is meant. One must have been used before the empty one. -/
def resolve (m : Machine) (sought : Sought) : Machine × Option Pattern :=
  match sought <|> m.lastSought with
  | some whole => ({ m with lastSought := some whole }, some whole.pattern)
  | none =>
    ({ m with failure := some "-e expression #1, char 0: no previous regular expression" },
      none)

def finds (m : Machine) (sought : Sought) : Machine × Bool :=
  match m.resolve sought with
  | (m, some p) => (m, p.occursIn m.line.text)
  | (m, none) => (m, false)

def isAt (m : Machine) : Address → Machine × Bool
  | .line n => (m, m.number = n)
  | .every first step => (m, first ≤ m.number && (m.number - first) % step = 0)
  | .last => (m, m.atLast)
  | .matching sought => m.finds sought

def setRange (m : Machine) (place : Nat) (range? : Option OpenRange) : Machine :=
  let others := m.ranges.filter (·.1 ≠ place)
  { m with ranges := range?.toList.map (fun r => (place, r)) ++ others }

/-- Begins a range at the line at hand, if it goes any further. -/
def beginRange (m : Machine) (place : Nat) (bound : Bound) : Machine :=
  m.setRange place <|
    match bound with
    | .line n => if n ≤ m.number then none else some (.untilLine n)
    | .further n => if n = 0 then none else some (.untilLine (m.number + n))
    | .multiple n =>
      if n = 0 then none else some (.untilLine ((m.number + n - 1) / n * n))
    | .last => if m.atLast then none else some .untilFound
    | .matching _ => some .untilFound

/-- Whether a line is in a range that has begun; the range may end with it. -/
def continueRange (m : Machine) (place : Nat) (bound : Bound) : OpenRange → Machine × Bool
  | .untilLine n =>
    (if n ≤ m.number then m.setRange place none else m, m.number ≤ n)
  | .untilFound =>
    let (m, ends) :=
      match bound with
      | .matching sought => m.finds sought
      | _ => (m, m.atLast)
    (if ends then m.setRange place none else m, true)

/-- Whether a command is for the line at hand. -/
def selects (m : Machine) (c : Command) : Machine × Bool :=
  let (m, found) :=
    match c.selection.first?, c.selection.last? with
    | none, _ => (m, true)
    | some first, none => m.isAt first
    | some first, some bound =>
      match m.ranges.lookup c.place with
      | some range => m.continueRange c.place bound range
      | none =>
        let (m, begins) := m.isAt first
        if begins then (m.beginRange c.place bound, true) else (m, false)
  (m, found != c.selection.negated)

/-! ### Commands -/

/-- How the script ends for a line. -/
inductive LineEnd where
  /-- The line is written. -/
  | written
  | dropped
  /-- What is left of the line goes through the script again. -/
  | again
  | quit (status : Nat) (prints : Bool)

/-- What comes after a command. -/
inductive After where
  | next
  | at (name : Octets)
  | ends (e : LineEnd)

def substitute (m : Machine) (o : Options) (s : Substitution) : Machine :=
  match m.resolve s.sought with
  | (m, none) => m
  | (m, some p) =>
    match s.apply? p m.line.text with
    | none => m
    | some text =>
      let m := { m with line := { m.line with text }, replaced := true }
      let m := if s.prints then m.writeLine o m.line else m
      match s.file? with
      | some name => m.writeTo o name m.line
      | none => m

/-- One line behind another. -/
def joinLines (o : Options) (first second : Line) : Line :=
  { second with text := first.text ++ o.ending :: second.text }

/-- A line of a file waits to be written. -/
def queueLineOf (m : Machine) (o : Options) (name : Octets) : Machine :=
  let lines := (m.unread.lookup name).getD
    (linesOf o.ending ((o.task.bytesAt name).toOption.getD []))
  match lines with
  | [] => m
  | line :: rest =>
    { m with
      waiting := .text (line.text ++ [o.ending]) :: m.waiting
      unread := (name, rest) :: m.unread.filter (·.1 ≠ name) }

/-- Carries out a command that is for the line at hand. -/
def act (m : Machine) (o : Options) (place : Nat) : Action → Machine × After
  | .blockStart | .blockEnd | .label _ | .nothing => (m, .next)
  | .substitute s => (m.substitute o s, .next)
  | .replaceBytes old new =>
    let change (c : Char) : Char := (((old.zip new).reverse.lookup c)).getD c
    ({ m with line := { m.line with text := m.line.text.map change } }, .next)
  | .append text => ({ m with waiting := .text text :: m.waiting }, .next)
  | .insert text => (m.write o text, .next)
  | .change text =>
    (if (m.ranges.lookup place).isSome then m else m.write o text, .ends .dropped)
  | .delete => (m, .ends .dropped)
  | .deleteFirst =>
    match m.line.text.dropWhile (· ≠ o.ending) with
    | [] => (m, .ends .dropped)
    | _ :: rest => ({ m with line := { m.line with text := rest } }, .ends .again)
  | .print => (m.writeLine o m.line, .next)
  | .printFirst => (m.write o (firstLine o m.line.text ++ [o.ending]), .next)
  | .next =>
    if m.atLast then (m, .ends .written)
    else
      let m := if o.quiet then m else m.writeLine o m.line
      ((m.readLine? o false).getD m, .next)
  | .nextAppended =>
    match m.readLine? o true with
    | some m => (m, .next)
    | none => (m, .ends .written)
  | .keep => ({ m with kept := m.line }, .next)
  | .keepAppended => ({ m with kept := joinLines o m.kept m.line }, .next)
  | .recall => ({ m with line := m.kept }, .next)
  | .recallAppended => ({ m with line := joinLines o m.line m.kept }, .next)
  | .exchange => ({ m with line := m.kept, kept := m.line }, .next)
  | .clear => ({ m with line := { m.line with text := [] } }, .next)
  | .number => (m.write o (Octets.ofNat m.number ++ ['\n']), .next)
  | .fileName => (m.write o ['-', '\n'], .next)
  | .list width? => (m.write o (listing (width?.getD o.width) m.line.text), .next)
  | .quit status prints => (m, .ends (.quit status prints))
  | .jump name => (m, .at name)
  | .jumpIfReplaced name =>
    if m.replaced then ({ m with replaced := false }, .at name) else (m, .next)
  | .jumpUnlessReplaced name =>
    if m.replaced then ({ m with replaced := false }, .next) else (m, .at name)
  | .readFile name => ({ m with waiting := .file name :: m.waiting }, .next)
  | .readLine name => (m.queueLineOf o name, .next)
  | .writeFile name => (m.writeTo o name m.line, .next)
  | .writeFirst name =>
    (m.writeTo o name ⟨firstLine o m.line.text, true⟩, .next)

/-- Takes the line at hand through commands. The first argument bounds the number of steps. -/
def runCommands (o : Options) (script : List Command) :
    Nat → List Command → Machine → Machine × LineEnd
  | 0, _, m => (m, .written)
  | _, [], m => (m, .written)
  | steps + 1, c :: rest, m =>
    let (m, selected) := m.selects c
    if m.failure.isSome then (m, .quit 1 false)
    else if !selected then
      match c.action with
      | .blockStart => runCommands o script steps (afterBlock 0 rest) m
      | _ => runCommands o script steps rest m
    else
      match m.act o c.place c.action with
      | (m, .next) =>
        if m.failure.isSome then (m, .quit 1 false) else runCommands o script steps rest m
      | (m, .at name) => runCommands o script steps (afterLabel name script) m
      | (m, .ends e) => (m, e)

/-- The bound on the steps for one line: scripts may go in circles. -/
def maxSteps : Nat := 100000000

/-- Takes all lines through a script, beginning with the line at hand, and gives back the status. The
first argument bounds the number of rounds. -/
def runLines (o : Options) (script : List Command) : Nat → Machine → Machine × Nat
  | 0, m => (m, 0)
  | rounds + 1, m =>
    let goOn (m : Machine) : Machine × Nat :=
      match (m.flush o).readLine? o false with
      | some m => runLines o script rounds m
      | none => (m.flush o, 0)
    let shown (m : Machine) : Machine := if o.quiet then m else m.writeLine o m.line
    match runCommands o script maxSteps script m with
    | (m, .written) => goOn (shown m)
    | (m, .dropped) => goOn m
    | (m, .again) => runLines o script rounds (m.flush o)
    | (m, .quit status prints) => (if prints then (shown m).flush o else m, status)

end Machine

end ConnectorSchema.Filter.StreamEdit
