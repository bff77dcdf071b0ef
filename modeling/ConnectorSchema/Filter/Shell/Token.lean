import ConnectorSchema.Filter.Shell.Script

/-!
The signs of shell scripts, and how far the reading of a script has come.
-/

namespace ConnectorSchema.Filter.Shell

inductive Token where
  | stop
  | newline
  | semicolon
  | background
  | and
  | or
  | pipe
  | opening
  | closing
  | caseEnd
  /-- A redirection of a stream, and whether tabs in front of the lines of its text are dropped. -/
  | redirection (stream : Nat) (direction : Direction) (tabsDropped : Bool)
  | word (w : Word)
  | keyword (name : String)

/-- A token as complaints name it. -/
def Token.name : Token → String
  | .stop => "end of file"
  | .newline => "newline"
  | .semicolon => "\";\""
  | .background => "\"&\""
  | .and => "\"&&\""
  | .or => "\"||\""
  | .pipe => "\"|\""
  | .opening => "\"(\""
  | .closing => "\")\""
  | .caseEnd => "\";;\""
  | .redirection .. => "redirection"
  | .word _ => "word"
  | .keyword k => "\"" ++ k ++ "\""

def keywords : List String :=
  ["!", "case", "do", "done", "elif", "else", "esac", "fi", "for", "if", "in", "then", "until",
    "while", "\x7b", "\x7d"]

/-- Whether a list of commands cannot go on with a token. -/
def Token.endsList : Token → Bool
  | .stop | .closing | .caseEnd => true
  | .keyword k => ["do", "done", "elif", "else", "esac", "fi", "then", "\x7d"].contains k
  | _ => false

/-- A word that is a keyword where one can stand. -/
def Token.asKeyword (t : Token) : Token :=
  match t with
  | .word w =>
    match plainText? w with
    | some text =>
      if !isQuoted w && keywords.contains (String.ofList text) then .keyword (String.ofList text)
      else t
    | none => t
  | t => t

/-- The word that a token is written as. -/
def Token.asWord : Token → Word
  | .word w => w
  | .keyword k => k.toList.map fun c => .char c false
  | _ => []

/-- A script that cannot be read. -/
structure Fault where
  line : Nat
  message : String

/-- A text that begins after the end of the line. -/
structure Awaited where
  number : Nat
  ending : Octets
  literal : Bool
  tabsDropped : Bool

/-- How far the reading has come. -/
structure Reading where
  rest : Octets
  line : Nat
  /-- A token that was read but not used. -/
  pushed : Option Token
  awaited : List Awaited
  /-- The texts that were read, with their numbers. -/
  documents : List (Nat × Word)
  documentCount : Nat

def Reading.start (text : Octets) : Reading := ⟨text, 1, none, [], [], 0⟩

abbrev Reader := StateT Reading (Except Fault)

namespace Reader

def fault {α : Type} (message : String) : Reader α := fun r => .error ⟨r.line, message⟩

def unexpected {α : Type} (t : Token) : Reader α := fault (t.name ++ " unexpected")

def expecting {α : Type} (t : Token) (wanted : String) : Reader α :=
  fault (t.name ++ " unexpected (expecting " ++ wanted ++ ")")

/-- Goes on behind some bytes, which may end lines. -/
def moveTo (rest : Octets) (lines : Nat) : Reader Unit :=
  modify fun r => { r with rest, line := r.line + lines }

def push (t : Token) : Reader Unit := modify fun r => { r with pushed := some t }

end Reader

/-- Blanks, joined lines and comments in front of a token are passed over; counts the lines. -/
def skipGap : Octets → (lines : Nat) → Octets × Nat
  | [], lines => ([], lines)
  | ' ' :: rest, lines => skipGap rest lines
  | '\t' :: rest, lines => skipGap rest lines
  | '\\' :: '\n' :: rest, lines => skipGap rest (lines + 1)
  | '#' :: rest, lines => (rest.dropWhile (· ≠ '\n'), lines)
  | rest, lines => (rest, lines)

def endsWord (c : Char) : Bool :=
  ['\n', ' ', '\t', ';', '&', '|', '(', ')', '<', '>'].contains c

/-- A parameter with a name of one sign. -/
def isSpecialParameter (c : Char) : Bool := ['#', '?', '$', '!', '-', '*', '@'].contains c

/-- The commands in old quotes, and what follows. The backslashes that protect the signs of the outer
text are dropped. -/
def takeBackquoted (inQuotes : Bool) : (done : Octets) → Octets → Option (Octets × Octets)
  | _, [] => none
  | done, '\x60' :: rest => some (done.reverse, rest)
  | done, '\\' :: c :: rest =>
    if c = '\n' then takeBackquoted inQuotes done rest
    else if c = '\\' || c = '\x60' || c = '$' || (inQuotes && c = '"') then
      takeBackquoted inQuotes (c :: done) rest
    else takeBackquoted inQuotes (c :: '\\' :: done) rest
  | done, c :: rest => takeBackquoted inQuotes (c :: done) rest

/-- The lines of a text in a script up to its ending, and what follows. -/
def takeDocument (a : Awaited) : List Line → (done : List Line) → List Line × List Line
  | [], done => (done.reverse, [])
  | line :: rest, done =>
    let text := if a.tabsDropped then line.text.dropWhile (· = '\t') else line.text
    if text = a.ending then (done.reverse, rest)
    else takeDocument a rest ({ line with text } :: done)

def textOf (lines : List Line) : Octets :=
  lines.flatMap fun line => if line.ended then line.text ++ ['\n'] else line.text

end ConnectorSchema.Filter.Shell
