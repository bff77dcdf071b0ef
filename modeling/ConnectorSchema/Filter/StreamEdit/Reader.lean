import ConnectorSchema.Filter.StreamEdit.Escape
import ConnectorSchema.Filter.StreamEdit.Script

/-!
Reading scripts of the stream editor. A script that cannot be read is refused with the number of bytes
that were read of it.
-/

namespace ConnectorSchema.Filter.StreamEdit

def stop {α : Type} (rest : Octets) (message : String) : Except Stop α := .error ⟨rest, message⟩

def skipBlanks (text : Octets) : Octets := text.dropWhile Octets.isBlank

/-- A number; beyond the largest one, numbers start again at zero. -/
def takeNumber (text : Octets) : Nat × Octets :=
  let digits := text.takeWhile Char.isDigit
  (Octets.number digits % 18446744073709551616, text.drop digits.length)

/-! ### Texts between marks -/

/-- How far the reading of a bracket has come. -/
inductive BracketState where
  | plain
  /-- Behind an opening bracket. -/
  | opened
  /-- In a name that ends with a mark and a closing bracket. -/
  | named (mark : Char)
  /-- Behind a mark that may end the name. -/
  | closing (mark : Char)

/-- A bracket up to its end, in reverse in front of `done`. The mark around the pattern counts for
nothing there. -/
def takeBracket (done : Octets) : BracketState → Octets → Except Octets (Octets × Octets)
  | _, [] => .error []
  | state, c :: rest =>
    if c = '\n' then .error (c :: rest)
    else
      let isMark := c = '.' || c = ':' || c = '='
      match state with
      | .plain =>
        if c = ']' then .ok (c :: done, rest)
        else takeBracket (c :: done) (if c = '[' then .opened else .plain) rest
      | .opened =>
        if c = ']' then .ok (c :: done, rest)
        else
          takeBracket (c :: done)
            (if isMark then .named c else if c = '[' then .opened else .plain) rest
      | .named mark => takeBracket (c :: done) (if c = mark then .closing mark else .named mark) rest
      | .closing mark => takeBracket (c :: done) (if c = ']' then .plain else .named mark) rest

/-- The text up to a mark. A backslash before the mark is dropped; in a pattern, brackets are kept
whole. Without the mark, what is left where the reading ended comes back. The first argument bounds
the number of steps. -/
def takeMarked (mark : Char) (isPattern : Bool) :
    Nat → (done : Octets) → Octets → Except Octets (Octets × Octets)
  | 0, _, rest => .error rest
  | _, _, [] => .error []
  | steps + 1, done, c :: rest =>
    if c = mark then .ok (done.reverse, rest)
    else if c = '\n' then .error (c :: rest)
    else
      match c, rest with
      | '\\', [] => .error []
      | '\\', d :: rest =>
        if d = 'n' && isPattern then takeMarked mark isPattern steps ('\n' :: done) rest
        else if d = '\n' || (d = mark && (isPattern || d ≠ '&')) then
          takeMarked mark isPattern steps (d :: done) rest
        else takeMarked mark isPattern steps (d :: '\\' :: done) rest
      | '[', rest =>
        if !isPattern then takeMarked mark isPattern steps ('[' :: done) rest
        else do
          let (done, rest) :=
            match rest with
            | '^' :: ']' :: rest => (']' :: '^' :: '[' :: done, rest)
            | '^' :: rest => ('^' :: '[' :: done, rest)
            | ']' :: rest => (']' :: '[' :: done, rest)
            | rest => ('[' :: done, rest)
          let (done, rest) ← takeBracket done .plain rest
          takeMarked mark isPattern steps done rest
      | c, rest => takeMarked mark isPattern steps (c :: done) rest

/-- The two texts of a command, with a mark before, between and behind them. -/
def takePair (name : Char) (isPattern : Bool) (text : Octets) : Except Stop ((Octets × Octets) × Octets) :=
  let unterminated := "unterminated \x60" ++ name.toString ++ "' command"
  match text with
  | [] => stop [] unterminated
  | mark :: rest =>
    match takeMarked mark isPattern rest.length.succ [] rest with
    | .error rest => stop rest unterminated
    | .ok (first, rest) =>
      match takeMarked mark false rest.length.succ [] rest with
      | .error rest => stop rest unterminated
      | .ok (second, rest) => .ok ((first, second), rest)

/-! ### Patterns and addresses -/

/-- Reads a pattern; `rest` is what was left of the script. -/
def soughtOf (manner : Pattern.Manner) (source rest : Octets) : Except Stop Sought :=
  if source.isEmpty then
    if manner.anyCase || manner.byLine then stop rest "cannot specify modifiers on empty regexp"
    else .ok none
  else
    match plainPattern source.length [] source with
    | .error message => stop rest message
    | .ok source =>
      match Pattern.read manner source with
      | .ok whole => .ok (some whole)
      | .error fault => stop rest fault.message

/-- The letters behind a pattern that say how it is meant. The first argument bounds their number. -/
def takeManner : Nat → Pattern.Manner → Octets → Pattern.Manner × Octets
  | 0, m, text => (m, text)
  | steps + 1, m, text =>
    match skipBlanks text with
    | 'I' :: rest => takeManner steps { m with anyCase := true } rest
    | 'M' :: rest => takeManner steps { m with byLine := true } rest
    | rest => (m, rest)

/-- An address as it is written. -/
inductive WrittenAddress where
  | address (a : Address)
  | further (n : Nat)
  | multiple (n : Nat)

/-- The address at the front of a text, if there is one. -/
def takeAddress (extended : Bool) (text : Octets) : Except Stop (Option WrittenAddress × Octets) :=
  let pattern (mark : Char) (rest : Octets) : Except Stop (Option WrittenAddress × Octets) :=
    match takeMarked mark true rest.length.succ [] rest with
    | .error rest => stop rest "unterminated address regex"
    | .ok (source, rest) => do
      let (manner, rest) := takeManner rest.length ⟨extended, false, false⟩ rest
      let sought ← soughtOf manner source rest
      return (some (.address (.matching sought)), rest)
  match text with
  | '$' :: rest => .ok (some (.address .last), rest)
  | '/' :: rest => pattern '/' rest
  | '\\' :: mark :: rest => pattern mark rest
  | '\\' :: [] => stop [] "unterminated address regex"
  | '+' :: rest =>
    let (n, rest) := takeNumber (skipBlanks rest)
    .ok (some (.further n), rest)
  | '~' :: rest =>
    let (n, rest) := takeNumber (skipBlanks rest)
    .ok (some (.multiple n), rest)
  | c :: _ =>
    if !c.isDigit then .ok (none, text)
    else
      let (n, rest) := takeNumber text
      match skipBlanks rest with
      | '~' :: rest =>
        let (step, rest) := takeNumber (skipBlanks rest)
        .ok (some (.address (if step = 0 then .line n else .every n step)), rest)
      | _ => .ok (some (.address (.line n)), rest)
  | [] => .ok (none, [])

def boundOf : WrittenAddress → Bound
  | .address (.line n) => .line n
  | .address (.every n _) => .line n
  | .address .last => .last
  | .address (.matching sought) => .matching sought
  | .further n => .further n
  | .multiple n => .multiple n

/-- The lines that a command is for, and what follows. -/
def takeSelection (extended : Bool) (text : Octets) : Except Stop (Selection × Octets) := do
  let (first, rest) ← takeAddress extended text
  let (first?, last?, rest) ← (match first with
    | none => .ok (none, none, rest)
    | some (.address first) => do
      match skipBlanks rest with
      | ',' :: after =>
        let after := skipBlanks after
        match ← takeAddress extended after with
        | (some last, rest) => return (some first, some (boundOf last), rest)
        | (none, _) => stop (after.drop 1) "unexpected \x60,'"
      | _ => return (some first, none, rest)
    | some _ => stop rest "invalid usage of +N or ~N as first address" :
      Except Stop (Option Address × Option Bound × Octets))
  let zeroIsMisused :=
    match first?, last? with
    | some (.line 0), some (.matching _) => false
    | some (.line 0), _ => true
    | _, _ => false
  if zeroIsMisused then stop ((skipBlanks rest).drop 1) "invalid usage of line address 0"
  else
    match skipBlanks rest with
    | '!' :: rest =>
      match skipBlanks rest with
      | '!' :: rest => stop rest "multiple \x60!'s"
      | rest => return (⟨first?, last?, true⟩, rest)
    | rest => return (⟨first?, last?, false⟩, rest)

/-! ### What follows a command's name -/

/-- The end of a command. -/
def endCommand {α : Type} (a : α) (text : Octets) : Except Stop (α × Octets) :=
  match skipBlanks text with
  | [] => .ok (a, [])
  | c :: rest =>
    if c = '\x7d' || c = '#' then .ok (a, c :: rest)
    else if c = '\n' || c = ';' then .ok (a, rest)
    else stop rest "extra characters after command"

/-- The text that a line is written behind, with its escapes replaced. It goes to the end of its line;
behind a backslash the line ends nothing. The first argument bounds the number of steps. -/
def takeLine : Nat → (done : Octets) → Octets → Except Stop (Octets × Octets)
  | 0, done, rest => .ok (done.reverse, rest)
  | _, done, [] => .ok (('\n' :: done).reverse, [])
  | _, done, '\n' :: rest => .ok (('\n' :: done).reverse, rest)
  | steps + 1, done, '\\' :: rest =>
    match takeByte rest, rest with
    | .error message, _ => stop rest message
    | .ok (some (c, rest)), _ => takeLine steps (c :: done) rest
    | .ok none, c :: rest => takeLine steps (c :: done) rest
    | .ok none, [] => .ok (('\n' :: done).reverse, [])
  | steps + 1, done, c :: rest => takeLine steps (c :: done) rest

/-- The text of a command that brings its own lines. It begins behind a backslash and the end of the
line, or right there. -/
def takeText (text : Octets) : Except Stop (Octets × Octets) :=
  match skipBlanks text with
  | [] => stop [] "expected \\ after \x60a', \x60c' or \x60i'"
  | '\\' :: [] => .ok ([], [])
  | '\\' :: rest =>
    match skipBlanks rest with
    | '\n' :: rest => takeLine rest.length.succ [] rest
    | _ =>
      match rest with
      | c :: after => (takeLine after.length.succ [c] after)
      | [] => .ok ([], [])
  | rest => takeLine rest.length.succ [] rest

/-- A label, which ends before a blank, a semicolon or a brace. -/
def takeLabel (text : Octets) : Octets × Octets :=
  let text := skipBlanks text
  let name := text.takeWhile fun c => !Octets.isSpace c && c ≠ ';' && c ≠ '\x7d'
  (name, text.drop name.length)

def takeFileName (text : Octets) : Except Stop (Octets × Octets) :=
  let text := skipBlanks text
  match text.takeWhile (· ≠ '\n') with
  | [] => stop text "missing filename in r/R/w/W commands"
  | name => .ok (name, text.drop name.length)

/-- A status or a width behind a command's name. -/
def takeOptionalNumber (text : Octets) : Option Nat × Octets :=
  let text := skipBlanks text
  if text.head?.any Char.isDigit then
    let (n, rest) := takeNumber text
    (some n, rest)
  else (none, text)

/-! ### Substitutions -/

/-- The text that is put in for matches. The first argument bounds the number of steps. -/
def fillingOf : Nat → Octets → Except String (List Filling)
  | 0, _ => .ok []
  | _, [] => .ok []
  | steps + 1, '&' :: rest => (fillingOf steps rest).map (.group 0 :: ·)
  | steps + 1, '\\' :: text => do
    match text with
    | 'L' :: rest => return .casing .lower :: (← fillingOf steps rest)
    | 'U' :: rest => return .casing .upper :: (← fillingOf steps rest)
    | 'E' :: rest => return .casing .unchanged :: (← fillingOf steps rest)
    | 'l' :: rest => return .nextCasing .lower :: (← fillingOf steps rest)
    | 'u' :: rest => return .nextCasing .upper :: (← fillingOf steps rest)
    | text =>
      match ← takeByte text, text with
      | some (c, rest), _ => return .text [c] :: (← fillingOf steps rest)
      | none, c :: rest =>
        let part : Filling := if c.isDigit then .group (c.toNat - '0'.toNat) else .text [c]
        return part :: (← fillingOf steps rest)
      | none, [] => return [.text ['\\']]
  | steps + 1, c :: rest => (fillingOf steps rest).map (.text [c] :: ·)

/-- The highest number of a group that is put in. -/
def highestGroup (filling : List Filling) : Nat :=
  filling.foldl (fun n part =>
    match part with
    | .group k => max n k
    | _ => n) 0

/-- What the letters behind a substitution say. -/
structure Flags where
  manner : Pattern.Manner
  every : Bool
  prints : Bool
  which? : Option Nat
  file? : Option Octets

/-- Reads the letters behind a substitution to its end. The first argument bounds their number. -/
def takeFlags : Nat → Flags → Octets → Except Stop (Flags × Octets)
  | 0, f, rest => .ok (f, rest)
  | _, f, [] => .ok (f, [])
  | steps + 1, f, c :: rest =>
    match c with
    | 'g' =>
      if f.every then stop rest "multiple \x60g' options to \x60s' command"
      else takeFlags steps { f with every := true } rest
    | 'p' =>
      if f.prints then stop rest "multiple \x60p' options to \x60s' command"
      else takeFlags steps { f with prints := true } rest
    | 'i' | 'I' => takeFlags steps { f with manner := { f.manner with anyCase := true } } rest
    | 'm' | 'M' => takeFlags steps { f with manner := { f.manner with byLine := true } } rest
    | 'w' => do
      let (name, rest) ← takeFileName rest
      return ({ f with file? := some name }, rest)
    | '\x7d' | '#' => .ok (f, c :: rest)
    | '\n' | ';' => .ok (f, rest)
    | c =>
      if Octets.isBlank c then takeFlags steps f rest
      else if c.isDigit then
        let (n, after) := takeNumber (c :: rest)
        if f.which?.isSome then stop rest "multiple number options to \x60s' command"
        else if n = 0 then stop after "number option to \x60s' command may not be zero"
        else takeFlags steps { f with which? := some n } after
      else stop rest "unknown option to \x60s'"

def takeSubstitution (extended : Bool) (text : Octets) : Except Stop (Action × Octets) := do
  let ((source, filling), rest) ← takePair 's' true text
  let filling ← (fillingOf filling.length filling).mapError fun message => ⟨rest, message⟩
  let (f, rest) ←
    takeFlags rest.length.succ ⟨⟨extended, false, false⟩, false, false, none, none⟩ rest
  let sought ← soughtOf f.manner source rest
  let highest := highestGroup filling
  if sought.any fun whole => whole.groups < highest then
    stop rest ("invalid reference \\" ++ toString highest ++ " on \x60s' command's RHS")
  else
    return (.substitute ⟨sought, filling, f.which?.getD 1, f.every, f.prints, f.file?⟩, rest)

/-- The bytes of a list in which backslashes may stand. The first argument bounds the number of
steps. -/
def listed : Nat → Octets → Except String Octets
  | 0, _ => .ok []
  | _, [] => .ok []
  | steps + 1, '\\' :: rest => do
    match ← takeByte rest, rest with
    | some (c, rest), _ => return c :: (← listed steps rest)
    | none, c :: rest => return c :: (← listed steps rest)
    | none, [] => return ['\\']
  | steps + 1, c :: rest => (listed steps rest).map (c :: ·)

def takeReplacedBytes (text : Octets) : Except Stop (Action × Octets) := do
  let ((old, new), rest) ← takePair 'y' false text
  let placed {α : Type} (result : Except String α) : Except Stop α :=
    result.mapError fun message => ⟨rest, message⟩
  let old ← placed (listed old.length old)
  let new ← placed (listed new.length new)
  if old.length ≠ new.length then
    stop rest "strings for \x60y' command are different lengths"
  else endCommand (.replaceBytes old new) rest

/-! ### Commands -/

/-- Commands that are a letter and nothing else. -/
def plainAction? : Char → Option Action
  | '=' => some .number
  | 'd' => some .delete
  | 'D' => some .deleteFirst
  | 'F' => some .fileName
  | 'g' => some .recall
  | 'G' => some .recallAppended
  | 'h' => some .keep
  | 'H' => some .keepAppended
  | 'n' => some .next
  | 'N' => some .nextAppended
  | 'p' => some .print
  | 'P' => some .printFirst
  | 'x' => some .exchange
  | 'z' => some .clear
  | _ => none

/-- Reads a command after its addresses. Blocks and comments are left to the caller. -/
def takeAction (extended : Bool) (selection : Selection) (text : Octets) : Except Stop (Action × Octets) :=
  let named (make : Octets → Action) (rest : Octets) : Except Stop (Action × Octets) :=
    (takeFileName rest).map fun found => (make found.1, found.2)
  let labelled (make : Octets → Action) (rest : Octets) : Except Stop (Action × Octets) :=
    let (name, rest) := takeLabel rest
    .ok (make name, rest)
  let quit (prints : Bool) (rest : Octets) : Except Stop (Action × Octets) :=
    if selection.last?.isSome then stop rest "command only uses one address"
    else
      let (status, rest) := takeOptionalNumber rest
      endCommand (.quit (status.getD 0) prints) rest
  match text with
  | [] => stop [] "missing command"
  | '\n' :: rest => stop rest "missing command"
  | 's' :: rest => takeSubstitution extended rest
  | 'y' :: rest => takeReplacedBytes rest
  | 'a' :: rest => (takeText rest).map fun found => (.append found.1, found.2)
  | 'i' :: rest => (takeText rest).map fun found => (.insert found.1, found.2)
  | 'c' :: rest => (takeText rest).map fun found => (.change found.1, found.2)
  | ':' :: rest =>
    if selection.first?.isSome then stop rest ": doesn't want any addresses"
    else
      match takeLabel rest with
      | ([], rest) => stop rest "\":\" lacks a label"
      | (name, rest) => .ok (.label name, rest)
  | 'b' :: rest => labelled .jump rest
  | 't' :: rest => labelled .jumpIfReplaced rest
  | 'T' :: rest => labelled .jumpUnlessReplaced rest
  | 'q' :: rest => quit true rest
  | 'Q' :: rest => quit false rest
  | 'l' :: rest =>
    let (width?, rest) := takeOptionalNumber rest
    endCommand (.list width?) rest
  | 'r' :: rest => named .readFile rest
  | 'R' :: rest => named .readLine rest
  | 'w' :: rest => named .writeFile rest
  | 'W' :: rest => named .writeFirst rest
  | 'v' :: rest =>
    let (_, rest) := takeLabel rest
    endCommand .nothing rest
  | c :: rest =>
    match plainAction? c with
    | some action => endCommand action rest
    | none => stop rest ("unknown command: \x60" ++ String.ofList [c] ++ "'")

/-- What has been read of a script. -/
structure Progress where
  /-- The commands so far, the last one in front. -/
  commands : List Command
  /-- The numbers of the expressions in which open blocks began, the innermost in front. -/
  blocks : List Nat

def Progress.add (p : Progress) (selection : Selection) (action : Action) : Progress :=
  { p with commands := ⟨selection, action, p.commands.length⟩ :: p.commands }

/-- Reads the commands of one expression. The first argument bounds their number. -/
def readCommands (extended : Bool) (expression : Nat) :
    Nat → Progress → Octets → Except Stop Progress
  | 0, p, _ => .ok p
  | steps + 1, p, text =>
    match text.dropWhile fun c => Octets.isSpace c || c = ';' with
    | [] => .ok p
    | text => do
      let (selection, rest) ← takeSelection extended text
      match rest with
      | '#' :: rest =>
        if selection.first?.isSome then stop rest "comments don't accept any addresses"
        else readCommands extended expression steps p (rest.dropWhile (· ≠ '\n'))
      | '\x7b' :: rest =>
        readCommands extended expression steps
          { p.add selection .blockStart with blocks := expression :: p.blocks } rest
      | '\x7d' :: rest =>
        match p.blocks with
        | [] => stop rest "unexpected \x60\x7d'"
        | _ :: blocks =>
          if selection.first?.isSome then stop rest "\x7d doesn't want any addresses"
          else
            let (_, rest) ← endCommand () rest
            readCommands extended expression steps
              { p.add selection .blockEnd with blocks } rest
      | rest =>
        let (action, rest) ← takeAction extended selection rest
        readCommands extended expression steps (p.add selection action) rest

/-- The complaint about an expression that cannot be read. -/
def complaint (expression position : Nat) (message : String) : String :=
  "-e expression #" ++ toString expression ++ ", char " ++ toString position ++ ": " ++ message

/-- Joins an expression that ends within a command's own text to the one after it. -/
def joinContinued : List Octets → List Octets
  | a :: b :: rest =>
    if a.getLast? = some '\\' then joinContinued ((a ++ '\n' :: b) :: rest)
    else a :: joinContinued (b :: rest)
  | expressions => expressions
termination_by expressions => expressions.length

/-- The label that a command jumps to. -/
def target? (c : Command) : Option Octets :=
  match c.action with
  | .jump name | .jumpIfReplaced name | .jumpUnlessReplaced name =>
    if name.isEmpty then none else some name
  | _ => none

/-- Reads a script in expressions, or complains. -/
def readScript (extended : Bool) (expressions : List Octets) :
    Except (Nat × String) (List Command) := do
  let step (state : Nat × Progress) (text : Octets) : Except (Nat × String) (Nat × Progress) :=
    match readCommands extended state.1 text.length.succ state.2 text with
    | .ok p => .ok (state.1 + 1, p)
    | .error s =>
      if s.message = Pattern.Fault.bareClass.message then .error (1, s.message)
      else .error (1, complaint state.1 (text.length - s.rest.length) s.message)
  let (_, p) ← (joinContinued expressions).foldlM step (1, ⟨[], []⟩)
  match p.blocks with
  | expression :: _ => .error (1, complaint expression 0 "unmatched \x60\x7b'")
  | [] =>
    let commands := p.commands.reverse
    match (commands.filterMap target?).find? fun name => !hasLabel name commands with
    | some name =>
      .error (4, "can't find label for jump to \x60" ++ String.ofList name ++ "'")
    | none => .ok commands

/-- Whether a script begins by asking for silence. -/
def asksForSilence (expressions : List Octets) : Bool :=
  match expressions with
  | ('#' :: 'n' :: _) :: _ => true
  | _ => false

end ConnectorSchema.Filter.StreamEdit
