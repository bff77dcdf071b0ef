import ConnectorSchema.Filter.Shell.Token

/-!
Reading shell scripts. A script is read one complete line of commands at a time, so that what stands
in front of a fault still runs.
-/

namespace ConnectorSchema.Filter.Shell

open Reader

/-- What a run of pieces stands in. -/
inductive Mode where
  | word
  | quotes
  /-- A word within the braces of a parameter. -/
  | braces (inQuotes : Bool)
  /-- An expression, with so many parentheses open. -/
  | arithmetic (depth : Nat)
  | document
deriving DecidableEq

/-- Whether bytes stand for themselves as they do in double quotes. -/
def Mode.quotes? : Mode → Bool
  | .word | .braces false => false
  | _ => true

/-- What is said when a script ends within a mode. -/
def Mode.unended? : Mode → Option String
  | .word | .document => none
  | .quotes => some "Unterminated quoted string"
  | .braces _ => some "Missing '\x7d'"
  | .arithmetic _ => some "Missing '))'"

/-- Whether a backslash protects a byte. -/
def Mode.protects (mode : Mode) (c : Char) : Bool :=
  !mode.quotes? || c = '$' || c = '\x60' || c = '\\' || (c = '"' && mode ≠ .document)
    || (c = '\x7d' && mode = .braces true)

/-- A redirection sign, behind the number of its stream, and what follows. -/
def takeDirection (documentNumber : Nat) (rest : Octets) :
    Option ((Nat × Direction × Bool) × Octets) :=
  match rest with
  | '>' :: '>' :: rest => some ((1, .append, false), rest)
  | '>' :: '&' :: rest => some ((1, .copy, false), rest)
  | '>' :: '|' :: rest => some ((1, .output, false), rest)
  | '>' :: rest => some ((1, .output, false), rest)
  | '<' :: '<' :: '-' :: rest => some ((0, .document documentNumber, true), rest)
  | '<' :: '<' :: rest => some ((0, .document documentNumber, false), rest)
  | '<' :: '&' :: rest => some ((0, .copy, false), rest)
  | '<' :: '>' :: rest => some ((0, .both, false), rest)
  | '<' :: rest => some ((0, .input, false), rest)
  | _ => none

/-- The redirection at the front of a text. One digit in front is the number of the stream. -/
def takeRedirection (documentNumber : Nat) (text : Octets) : Option (Token × Octets) :=
  match text with
  | c :: rest =>
    if c.isDigit then
      (takeDirection documentNumber rest).map fun ((_, direction, tabs), rest) =>
        (.redirection (c.toNat - '0'.toNat) direction tabs, rest)
    else
      (takeDirection documentNumber text).map fun ((stream, direction, tabs), rest) =>
        (.redirection stream direction tabs, rest)
  | [] => none

/-- The assignment that a word is, if it is one. -/
def assignment? (w : Word) : Option (Octets × Word) :=
  let isPlain : Piece → Bool
    | .char c false => isNamePart c
    | _ => false
  let front := w.takeWhile isPlain
  match plainText? front, w.drop front.length with
  | some name, .char '=' false :: value => if isName name then some (name, value) else none
  | _, _ => none

/-- Where a list of commands stands. -/
inductive ListPlace where
  /-- A line of the script itself. -/
  | line
  | inside
  /-- Where there may be no command at all. -/
  | perhapsEmpty
deriving DecidableEq

def join : Option Command → Command → Option Command
  | none, c => some c
  | some first, c => some (.sequence first c)

mutual

/-- Reads pieces up to the end of their mode; those so far come in reverse. -/
def readPieces : Nat → Mode → List Piece → Reader Word
  | 0, _, done => return done.reverse
  | n + 1, mode, done => do
    let r ← get
    let quoted := mode.quotes?
    let add (pieces : List Piece) : Reader Word := readPieces n mode (pieces.reverse ++ done)
    match r.rest with
    | [] =>
      match mode.unended? with
      | some message => fault message
      | none => return done.reverse
    | '\\' :: '\n' :: rest =>
      moveTo rest 1
      add []
    | '\\' :: c :: rest =>
      if mode.protects c then
        moveTo rest 0
        add [.char c true]
      else
        moveTo (c :: rest) 0
        add [.char '\\' true]
    | '$' :: rest =>
      moveTo rest 0
      let piece ← readDollar n quoted
      add [piece]
    | '\x60' :: rest =>
      match takeBackquoted quoted [] rest with
      | none => fault "EOF in backquote substitution"
      | some (text, rest) =>
        set { r with rest := text, pushed := none, awaited := [] }
        let script ← readList n .perhapsEmpty
        modify fun inner => { inner with rest, line := r.line, pushed := none, awaited := r.awaited }
        add [.command (script.getD .nothing) quoted]
    | c :: rest =>
      let lines := if c = '\n' then 1 else 0
      let keep : Reader Word := do
        moveTo rest lines
        add [.char c quoted]
      match c, mode with
      | '"', .quotes =>
        moveTo rest 0
        return done.reverse
      | '"', .document => keep
      | '"', .arithmetic _ =>
        moveTo rest 0
        add []
      | '"', _ =>
        moveTo rest 0
        let inside ← readPieces n .quotes []
        add (.quotes :: inside)
      | '\'', .word | '\'', .braces false =>
        match Octets.cutAt '\'' rest with
        | (_, none) => fault "Unterminated quoted string"
        | (text, some rest) =>
          moveTo rest (text.count '\n')
          add (.quotes :: text.map fun c => .char c true)
      | '\x7d', .braces _ =>
        moveTo rest 0
        return done.reverse
      | '(', .arithmetic depth =>
        moveTo rest 0
        readPieces n (.arithmetic (depth + 1)) (.char c true :: done)
      | ')', .arithmetic 0 =>
        match rest with
        | ')' :: rest =>
          moveTo rest 0
          return done.reverse
        | _ => keep
      | ')', .arithmetic (depth + 1) =>
        moveTo rest 0
        readPieces n (.arithmetic depth) (.char c true :: done)
      | c, .word => if endsWord c then return done.reverse else keep
      | _, _ => keep

/-- Reads what stands behind a dollar sign. -/
def readDollar : Nat → (quoted : Bool) → Reader Piece
  | 0, quoted => return .char '$' quoted
  | n + 1, quoted => do
    let r ← get
    match r.rest with
    | '(' :: '(' :: rest =>
      moveTo rest 0
      return .number (← readPieces n (.arithmetic 0) []) quoted
    | '(' :: rest =>
      set { r with rest, pushed := none, awaited := [] }
      let script ← readList n .perhapsEmpty
      match ← readToken n false false with
      | .closing =>
        modify fun inner => { inner with pushed := none, awaited := r.awaited }
        return .command (script.getD .nothing) quoted
      | t => expecting t "\")\""
    | '\x7b' :: rest =>
      moveTo rest 0
      readBraced n quoted
    | c :: rest =>
      if isNameStart c then
        let name := r.rest.takeWhile isNamePart
        moveTo (r.rest.drop name.length) 0
        return .parameter name .value quoted
      else if c.isDigit || isSpecialParameter c then
        moveTo rest 0
        return .parameter [c] .value quoted
      else return .char '$' quoted
    | [] => return .char '$' quoted

/-- Reads a parameter in braces, behind the opening one. -/
def readBraced : Nat → (quoted : Bool) → Reader Piece
  | 0, _ => return .wrong
  | n + 1, quoted => do
    let r ← get
    let wrong : Reader Piece := do
      let _ ← readPieces n (.braces quoted) []
      return .wrong
    /- The parameter behind the sign for a length. -/
    let measured? : Option (Octets × Octets) :=
      match r.rest with
      | '#' :: c :: rest =>
        if isNamePart c then
          let name := (c :: rest).takeWhile isNamePart
          some (name, (c :: rest).drop name.length)
        else
          match rest with
          | '\x7d' :: _ => if c ≠ '\x7d' && isSpecialParameter c then some ([c], rest) else none
          | _ => none
      | _ => none
    match measured? with
    | some (name, rest) =>
      moveTo rest 0
      match rest with
      | '\x7d' :: rest =>
        moveTo rest 0
        return .parameter name .length quoted
      | _ => wrong
    | none =>
      let name :=
        match r.rest with
        | [] => []
        | c :: _ =>
          if isNameStart c then r.rest.takeWhile isNamePart
          else if c.isDigit then r.rest.takeWhile Char.isDigit
          else if isSpecialParameter c then [c]
          else []
      let rest := r.rest.drop name.length
      if name.isEmpty then wrong
      else do
        let withWord (rest : Octets) (inQuotes : Bool) (use : Word → Use) : Reader Piece := do
          moveTo rest 0
          let word ← readPieces n (.braces inQuotes) []
          return .parameter name (use word) quoted
        match rest with
        | '\x7d' :: rest =>
          moveTo rest 0
          return .parameter name .value quoted
        | ':' :: '-' :: rest => withWord rest quoted (.default true)
        | ':' :: '=' :: rest => withWord rest quoted (.assign true)
        | ':' :: '?' :: rest => withWord rest quoted (.demand true)
        | ':' :: '+' :: rest => withWord rest quoted (.instead true)
        | '-' :: rest => withWord rest quoted (.default false)
        | '=' :: rest => withWord rest quoted (.assign false)
        | '?' :: rest => withWord rest quoted (.demand false)
        | '+' :: rest => withWord rest quoted (.instead false)
        | '%' :: '%' :: rest => withWord rest false (.trim true true)
        | '%' :: rest => withWord rest false (.trim true false)
        | '#' :: '#' :: rest => withWord rest false (.trim false true)
        | '#' :: rest => withWord rest false (.trim false false)
        | rest =>
          moveTo rest 0
          wrong

/-- Reads the texts that were announced in the line that has ended. -/
def readDocuments : Nat → List Awaited → Reader Unit
  | 0, _ => return ()
  | _, [] => return ()
  | n + 1, a :: others => do
    let r ← get
    let (lines, after) := takeDocument a (linesOf '\n' r.rest) []
    let text := textOf lines
    let rest := textOf after
    let passed := (r.rest.length - rest.length)
    let count := (r.rest.take passed).count '\n'
    let word ← (if a.literal then return text.map fun c => Piece.char c true
      else do
        set { r with rest := text, pushed := none }
        readPieces n .document [])
    modify fun inner =>
      { inner with
        rest, line := r.line + count, pushed := r.pushed
        documents := (a.number, word) :: inner.documents }
    readDocuments n others

/-- Reads a token. Keywords are known, and ends of lines passed over, on request. -/
def readToken : Nat → (keywords newlines : Bool) → Reader Token
  | 0, _, _ => return .stop
  | n + 1, keywords, newlines => do
    let r ← get
    let t ← (match r.pushed with
      | some t => do
        set { r with pushed := none }
        return t
      | none => do
        let (rest, lines) := skipGap r.rest 0
        moveTo rest lines
        let single (t : Token) (rest : Octets) : Reader Token := do
          moveTo rest 0
          return t
        match rest with
        | [] => return .stop
        | '\n' :: rest =>
          moveTo rest 1
          modify fun r => { r with awaited := [] }
          readDocuments n r.awaited
          return .newline
        | '&' :: '&' :: rest => single .and rest
        | '&' :: rest => single .background rest
        | '|' :: '|' :: rest => single .or rest
        | '|' :: rest => single .pipe rest
        | ';' :: ';' :: rest => single .caseEnd rest
        | ';' :: rest => single .semicolon rest
        | '(' :: rest => single .opening rest
        | ')' :: rest => single .closing rest
        | text =>
          match takeRedirection r.documentCount text with
          | some (t, rest) => single t rest
          | none => return .word (← readPieces n .word []))
    match t with
    | .newline => if newlines then readToken n keywords newlines else return t
    | t => return if keywords then t.asKeyword else t

/-- Reads the word behind a redirection sign. -/
def readTarget : Nat → (stream : Nat) → Direction → (tabsDropped : Bool) → Reader Redirection
  | 0, stream, direction, _ => return .to stream direction []
  | n + 1, stream, direction, tabsDropped => do
    match ← readToken n false false with
    | .word w =>
      if let .document number := direction then
        let a : Awaited := ⟨number, (plainText? w).getD [], isQuoted w, tabsDropped⟩
        modify fun r => { r with awaited := r.awaited ++ [a], documentCount := number + 1 }
      return .to stream direction w
    | t => unexpected t

/-- Reads a list of commands. -/
def readList (n : Nat) (place : ListPlace) : Reader (Option Command) :=
  match n with
  | 0 => return none
  | n + 1 => readListFrom n place none

def readListFrom : Nat → ListPlace → Option Command → Reader (Option Command)
  | 0, _, found => return found
  | n + 1, place, found => do
    match ← readToken n true (place ≠ .line) with
    | .newline => return found
    | .stop =>
      push .stop
      return found
    | t =>
      push t
      if t.endsList && (place = .perhapsEmpty || (place = .inside && found.isSome)) then return found
      else
        let c ← readChain n
        match ← readToken n false false with
        | .background => readListFrom n place (join found (.background c))
        | .semicolon => readListFrom n place (join found c)
        | .newline =>
          push .newline
          readListFrom n place (join found c)
        | .stop =>
          push .stop
          readListFrom n place (join found c)
        | t =>
          if place = .line then unexpected t
          else
            push t
            return join found c

/-- Reads pipelines that depend on each other. -/
def readChain : Nat → Reader Command
  | 0 => return .nothing
  | n + 1 => do
    let first ← readPipeline n false
    readChainFrom n first

def readChainFrom : Nat → Command → Reader Command
  | 0, c => return c
  | n + 1, c => do
    match ← readToken n false false with
    | .and =>
      let next ← readPipeline n true
      readChainFrom n (.onSuccess c next)
    | .or =>
      let next ← readPipeline n true
      readChainFrom n (.onFailure c next)
    | t =>
      push t
      return c

def readPipeline : Nat → (newlines : Bool) → Reader Command
  | 0, _ => return .nothing
  | n + 1, newlines => do
    match ← readToken n true newlines with
    | .keyword "!" =>
      let c ← readCommand n false
      return .inverted (← readPipelineFrom n [c])
    | t =>
      push t
      let c ← readCommand n newlines
      readPipelineFrom n [c]

/-- Reads the rest of a pipeline, of which the commands so far come in reverse. -/
def readPipelineFrom : Nat → List Command → Reader Command
  | 0, done => return .pipeline done.reverse
  | n + 1, done => do
    match ← readToken n false false with
    | .pipe =>
      let c ← readCommand n true
      readPipelineFrom n (c :: done)
    | t =>
      push t
      match done with
      | [c] => return c
      | done => return .pipeline done.reverse

/-- Reads a list that must not be empty, and the keyword behind it. -/
def readUntil : Nat → (wanted : String) → Reader Command
  | 0, _ => return .nothing
  | n + 1, wanted => do
    let c ← readList n .inside
    match ← readToken n true false with
    | .keyword k =>
      if k = wanted then return c.getD .nothing
      else expecting (.keyword k) ("\"" ++ wanted ++ "\"")
    | t => expecting t ("\"" ++ wanted ++ "\"")

/-- Reads a command that is not a pipeline. -/
def readCommand : Nat → (newlines : Bool) → Reader Command
  | 0, _ => return .nothing
  | n + 1, newlines => do
    match ← readToken n true newlines with
    | .keyword "if" =>
      let c ← readConditional n
      readRedirected n c
    | .keyword "while" =>
      let test ← readUntil n "do"
      let body ← readUntil n "done"
      readRedirected n (.loop true test body)
    | .keyword "until" =>
      let test ← readUntil n "do"
      let body ← readUntil n "done"
      readRedirected n (.loop false test body)
    | .keyword "for" =>
      let c ← readEach n
      readRedirected n c
    | .keyword "case" =>
      let c ← readChoice n
      readRedirected n c
    | .keyword "\x7b" =>
      let c ← readUntil n "\x7d"
      readRedirected n c
    | .opening =>
      let c ← readList n .inside
      match ← readToken n true false with
      | .closing => readRedirected n (.subshell (c.getD .nothing) [])
      | t => expecting t "\")\""
    | .word w =>
      push (.word w)
      let r ← get
      readSimple n r.line [] [] []
    | .redirection stream direction tabs =>
      push (.redirection stream direction tabs)
      let r ← get
      readSimple n r.line [] [] []
    | t => unexpected t

/-- Reads a condition and its branches. -/
def readConditional : Nat → Reader Command
  | 0 => return .nothing
  | n + 1 => do
    let test ← readUntil n "then"
    let yes ← readList n .inside
    let yes := yes.getD .nothing
    match ← readToken n true false with
    | .keyword "elif" => return .conditional test yes (← readConditional n)
    | .keyword "else" => return .conditional test yes (← readUntil n "fi")
    | .keyword "fi" => return .conditional test yes .nothing
    | t => expecting t "\"fi\""

/-- Reads a loop over words. -/
def readEach : Nat → Reader Command
  | 0 => return .nothing
  | n + 1 => do
    let name ← (do
      match ← readToken n false false with
      | .word w =>
        match plainText? w with
        | some name => if isName name && !isQuoted w then return name else fault "Bad for loop variable"
        | none => fault "Bad for loop variable"
      | _ => fault "Bad for loop variable" : Reader Octets)
    let words ← (do
      match ← readToken n true true with
      | .keyword "in" => readWords n []
      | .semicolon => return [[.parameter ['@'] .value true]]
      | t =>
        push t
        return [[.parameter ['@'] .value true]] : Reader (List Word))
    match ← readToken n true true with
    | .keyword "do" => return .each name words (← readUntil n "done")
    | t => expecting t "\"do\""

/-- Reads words up to the end of their line. -/
def readWords : Nat → List Word → Reader (List Word)
  | 0, done => return done.reverse
  | n + 1, done => do
    match ← readToken n false false with
    | .word w => readWords n (w :: done)
    | .newline | .semicolon => return done.reverse
    | t => unexpected t

/-- Reads a choice between patterns. -/
def readChoice : Nat → Reader Command
  | 0 => return .nothing
  | n + 1 => do
    match ← readToken n false false with
    | .word subject =>
      match ← readToken n true true with
      | .keyword "in" =>
        let first ← readToken n true true
        return .choice subject (← readCases n first [])
      | t => expecting t "\"in\""
    | t => expecting t "word"

/-- Reads cases, of which the first token has been read; those so far come in reverse. -/
def readCases : Nat → Token → List (List Word × Command) →
    Reader (List (List Word × Command))
  | 0, _, done => return done.reverse
  | n + 1, first, done => do
    match first with
    | .keyword "esac" => return done.reverse
    | first =>
      let first ← (match first with
        | .opening => readToken n false false
        | t => return t : Reader Token)
      let patterns ← readPatterns n [first.asWord]
      let body ← readList n .perhapsEmpty
      let done := (patterns, body.getD .nothing) :: done
      match ← readToken n true true with
      | .keyword "esac" => return done.reverse
      | .caseEnd =>
        let next ← readToken n true true
        readCases n next done
      | t => expecting t "\";;\""

/-- Reads the patterns of a case behind the first one; those so far come in reverse. -/
def readPatterns : Nat → List Word → Reader (List Word)
  | 0, done => return done.reverse
  | n + 1, done => do
    match ← readToken n false false with
    | .pipe =>
      let t ← readToken n false false
      readPatterns n (t.asWord :: done)
    | .closing => return done.reverse
    | t => expecting t "\")\""

/-- Reads the redirections behind a command that holds others. -/
def readRedirected : Nat → Command → Reader Command
  | 0, c => return c
  | n + 1, c => do
    let redirections ← readRedirections n []
    if redirections.isEmpty then return c
    else
      match c with
      | .subshell c [] => return .subshell c redirections
      | c => return .group c redirections

def readRedirections : Nat → List Redirection → Reader (List Redirection)
  | 0, done => return done.reverse
  | n + 1, done => do
    match ← readToken n true false with
    | .redirection stream direction tabs =>
      let target ← readTarget n stream direction tabs
      readRedirections n (target :: done)
    | t =>
      push t
      return done.reverse

/-- Reads a simple command or the definition of a function; what was read so far comes in reverse. -/
def readSimple : Nat → (line : Nat) → List (Octets × Word) → List Word → List Redirection →
    Reader Command
  | 0, line, assignments, words, redirections =>
    return .simple line assignments.reverse words.reverse redirections.reverse
  | n + 1, line, assignments, words, redirections => do
    let finish (t : Token) : Reader Command := do
      push t
      return .simple line assignments.reverse words.reverse redirections.reverse
    match ← readToken n false false with
    | .word w =>
      match (if words.isEmpty then assignment? w else none) with
      | some a => readSimple n line (a :: assignments) words redirections
      | none => readSimple n line assignments (w :: words) redirections
    | .redirection stream direction tabs =>
      let target ← readTarget n stream direction tabs
      readSimple n line assignments words (target :: redirections)
    | .opening =>
      match words, assignments, redirections with
      | [w], [], [] =>
        match ← readToken n false false with
        | .closing =>
          match plainText? w with
          | some name =>
            if isName name && !isQuoted w && !specialNames.contains (String.ofList name) then
              return .function name (← readCommand n true)
            else fault "Bad function name"
          | none => fault "Bad function name"
        | t => expecting t "\")\""
      | _, _, _ => finish .opening
    | t => finish t

end

/-- A line of a script: its commands, if there are any, and what comes after it. -/
inductive ScriptLine where
  | finished
  | commands (c : Command) (after : Reading)
  | faulty (f : Fault)

/-- Reads the next line of a script. -/
def readLine (r : Reading) : ScriptLine :=
  match (readList (16 * r.rest.length + 64) .line).run { r with pushed := none } with
  | .error f => .faulty f
  | .ok (none, after) => if after.rest.isEmpty then .finished else .commands .nothing after
  | .ok (some c, after) => .commands c after

end ConnectorSchema.Filter.Shell
