import ConnectorSchema.Filter.Shell.Arithmetic
import ConnectorSchema.Filter.Shell.Wildcard

/-!
Working out words: parameters, the output of commands and numbers come in their places; then what is
not quoted is split into fields and matched against files.
-/

namespace ConnectorSchema.Filter.Shell

/-- Runs a command in a session; `tested` says that its failure is expected. -/
abbrev Evaluator := Command → (tested : Bool) → Session → Session

/-- A sign of a word that has been worked out in part. -/
inductive Mark where
  /-- A byte; `splits` tells those that may end fields. -/
  | byte (c : Char) (quoted splits : Bool)
  /-- A field is here, even if it is empty. -/
  | present
  /-- Quotes around all parameters, of which there are none. -/
  | absent
  /-- One field ends and another begins. -/
  | cut

def marksOf (quoted : Bool) (text : Octets) : List Mark :=
  text.map fun c => .byte c quoted (!quoted)

/-- The parameters as separate fields, or as one. -/
def allParameters (s : Session) (name : Char) (quoted : Bool) : List Mark :=
  match s.parameters with
  | [] => if quoted && name = '@' then [.absent] else []
  | first :: rest =>
    let one (text : Octets) : List Mark :=
      if quoted && text.isEmpty then [.present] else marksOf quoted text
    let separator : List Mark :=
      if quoted && name = '*' then
        match s.separators with
        | [] => []
        | c :: _ => [.byte c true false]
      else [.cut]
    one first ++ rest.flatMap fun text => separator ++ one text

/-- What stands in place of a parameter is split like its value. -/
def splittingIn (quoted : Bool) (marks : List Mark) : List Mark :=
  if quoted then marks
  else
    marks.map fun
      | .byte c false _ => .byte c false true
      | m => m

/-- The output of a command without the line ends behind it. -/
def outputOf (evaluate : Evaluator) (c : Command) (s : Session) : Octets × Session :=
  let (_, text, after) := s.piped none true (evaluate (.subshell c []) false)
  ((text.reverse.dropWhile (· = '\n')).reverse.filter (· ≠ '\x00'),
    { after with status := s.status, substituted := after.status })

/-- The text that marks make when they stay one field. -/
def oneField (s : Session) (marks : List Mark) : List Glyph :=
  marks.flatMap fun
    | .byte c quoted _ => [⟨c, quoted⟩]
    | .cut => [⟨s.separators.headD ' ', true⟩]
    | .present | .absent => []

/-- The home directory in front of a word that begins with a tilde. -/
def homeMarks (s : Session) : List Piece → List Mark × List Piece
  | .char '~' false :: rest =>
    match rest with
    | [] | .char '/' false :: _ =>
      match s.value? "HOME".toList with
      | some home => (marksOf true home, rest)
      | none => ([], .char '~' false :: rest)
    | _ => ([], .char '~' false :: rest)
  | word => ([], word)

mutual

/-- Works out pieces. -/
def expandPieces (evaluate : Evaluator) : List Piece → Session → List Mark × Session
  | [], s => ([], s)
  | piece :: rest, s =>
    let (marks, s) := expandPiece evaluate piece s
    if !s.isOnward then (marks, s)
    else
      let (others, s) := expandPieces evaluate rest s
      (marks ++ others, s)

def expandPiece (evaluate : Evaluator) : Piece → Session → List Mark × Session
  | .char c quoted, s => ([.byte c quoted false], s)
  | .quotes, s => ([.present], s)
  | .wrong, s => ([], { s with command := none }.abort "Bad substitution".toList)
  | .command c quoted, s =>
    let (text, s) := outputOf evaluate c s
    (marksOf quoted text, s)
  | .number expression quoted, s =>
    let (marks, s) := expandPieces evaluate expression s
    if !s.isOnward then ([], s)
    else
      let (text, s) := Arithmetic.evaluate s (bytesIn (oneField s marks))
      (marksOf quoted text, s)
  | .parameter name use quoted, s => expandUse evaluate name quoted use s

def expandUse (evaluate : Evaluator) (name : Octets) (quoted : Bool) :
    Use → Session → List Mark × Session
  | .value, s =>
    match name with
    | ['@'] => (allParameters s '@' quoted, s)
    | ['*'] => (allParameters s '*' quoted, s)
    | name =>
      match s.value? name with
      | some value => (marksOf quoted value, s)
      | none =>
        if s.options.contains 'u' && name ≠ ['!'] then
          ([], s.abort (name ++ ": parameter not set".toList))
        else ([], s)
  | .length, s =>
    match name with
    | ['@'] | ['*'] => (marksOf quoted (Octets.ofNat s.parameters.length), s)
    | name =>
      match s.value? name with
      | some value => (marksOf quoted (Octets.ofNat value.length), s)
      | none =>
        if s.options.contains 'u' then ([], s.abort (name ++ ": parameter not set".toList))
        else (marksOf quoted ['0'], s)
  | .default ifEmpty word, s =>
    if isThere s ifEmpty then (valueMarks s, s)
    else
      let (marks, s) := expandPieces evaluate word s
      (splittingIn quoted marks, s)
  | .instead ifEmpty word, s =>
    if isThere s ifEmpty then
      let (marks, s) := expandPieces evaluate word s
      (splittingIn quoted marks, s)
    else ([], s)
  | .assign ifEmpty word, s =>
    if isThere s ifEmpty then (valueMarks s, s)
    else
      let (marks, s) := expandPieces evaluate word s
      let value := bytesIn (oneField s marks)
      if !s.isOnward then ([], s)
      else if !isName name then ([], s.abort (name ++ ": bad variable name".toList))
      else (marksOf quoted value, s.assign name value)
  | .demand ifEmpty word, s =>
    if isThere s ifEmpty then (valueMarks s, s)
    else
      let (marks, s) := expandPieces evaluate word s
      let message := bytesIn (oneField s marks)
      let message :=
        if message.isEmpty then
          if ifEmpty then "parameter not set or null".toList else "parameter not set".toList
        else message
      ([], s.abort (name ++ ": ".toList ++ message))
  | .trim fromEnd longest word, s =>
    let (marks, s) := expandPieces evaluate word s
    (marksOf quoted (trimmed fromEnd longest (oneField s marks) ((s.value? name).getD [])), s)
where
  /-- Whether the parameter has a value that counts. -/
  isThere (s : Session) (ifEmpty : Bool) : Bool :=
    match name with
    | ['@'] | ['*'] => !s.parameters.isEmpty
    | name =>
      match s.value? name with
      | none => false
      | some value => !(ifEmpty && value.isEmpty)
  valueMarks (s : Session) : List Mark :=
    match name with
    | ['@'] => allParameters s '@' quoted
    | ['*'] => allParameters s '*' quoted
    | name => marksOf quoted ((s.value? name).getD [])

end

/-- How far the splitting into fields has come. -/
structure Splitting where
  done : List (List Glyph)
  /-- The field at hand in reverse, if one has begun. -/
  field? : Option (List Glyph)
  /-- Whether blanks have just ended a field. -/
  afterBlanks : Bool
  /-- Whether the field at hand holds nothing but missing parameters. -/
  absent : Bool

def Splitting.close (p : Splitting) : Splitting :=
  match p.field? with
  | some field =>
    { p with done := field.reverse :: p.done, field? := none, absent := false }
  | none => { p with absent := false }

def Splitting.step (separators : Octets) (p : Splitting) (m : Mark) : Splitting :=
  match m with
  | .present =>
    { p with field? := some (p.field?.getD []), afterBlanks := false }
  | .absent => { p with absent := true }
  | .cut => { p.close with afterBlanks := false }
  | .byte c quoted splits =>
    if splits && separators.contains c then
      if c = ' ' || c = '\t' || c = '\n' then
        if p.field?.isSome then { p.close with afterBlanks := true } else p
      else if p.field?.isSome then { p.close with afterBlanks := false }
      else if p.afterBlanks then { p with afterBlanks := false }
      else { p with done := [] :: p.done }
    else { p with field? := some (⟨c, quoted⟩ :: p.field?.getD []), afterBlanks := false }

/-- The fields that marks make. -/
def fieldsOf (s : Session) (marks : List Mark) : List (List Glyph) :=
  let p := marks.foldl (Splitting.step s.separators) ⟨[], none, false, false⟩
  let p := if p.absent && p.field?.any List.isEmpty then { p with field? := none } else p
  p.close.done.reverse

/-- Works out a word as one text. -/
def expandText (evaluate : Evaluator) (word : Word) (s : Session) : List Glyph × Session :=
  let (home, word) := homeMarks s word
  let (marks, s) := expandPieces evaluate word s
  (oneField s (home ++ marks), s)

/-- Works out a word as fields. -/
def expandFields (evaluate : Evaluator) (word : Word) (s : Session) : List Octets × Session :=
  let (home, word) := homeMarks s word
  let (marks, s) := expandPieces evaluate word s
  let fields := fieldsOf s (home ++ marks)
  (if s.options.contains 'f' then fields.map bytesIn else fields.flatMap (filesFor s.files), s)

/-- Works out words one after another. -/
def expandWords (evaluate : Evaluator) : List Word → Session → List Octets × Session
  | [], s => ([], s)
  | word :: rest, s =>
    let (fields, s) := expandFields evaluate word s
    if !s.isOnward then ([], s)
    else
      let (others, s) := expandWords evaluate rest s
      (fields ++ others, s)

end ConnectorSchema.Filter.Shell
