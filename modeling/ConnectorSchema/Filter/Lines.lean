import ConnectorSchema.Filter.Choice
import ConnectorSchema.Filter.Escape
import ConnectorSchema.Filter.Outcome

/-!
Programs that pick, order and count lines: `head`, `tail`, `tac`, `sort`, `uniq` and `wc`.
-/

namespace ConnectorSchema.Filter.Lines

/-- The bytes of a line with its end, if it has one. -/
def written (line : Line) : Octets := if line.ended then line.text ++ ['\n'] else line.text

def join (lines : List Line) : Octets := lines.flatMap written

def plainNames : ChoiceNames := ⟨[], [], [], []⟩

/-- The lines of a text, all with an end. -/
def endedLines (text : Octets) : List Line :=
  (linesOf '\n' text).map fun line => { line with ended := true }

/-! ### Beginnings and ends -/

/-- Which part of a text is wanted. -/
structure Part where
  byBytes : Bool
  /-- Whether the number counts from the other end. -/
  fromOther : Bool
  count : Nat

def partNames : ChoiceNames where
  flags := ['q', 'v', 'z']
  valued := ['n', 'c']
  attached := []
  long := [("lines", 'n'), ("bytes", 'c'), ("quiet", 'q'), ("silent", 'q'), ("verbose", 'v')]

/-- An argument such as `-5` counts lines. -/
def withOldCount : List Octets → List Octets
  | ('-' :: digits) :: rest =>
    if (Octets.number? digits).isSome then ['-', 'n'] :: digits :: rest else ('-' :: digits) :: rest
  | arguments => arguments

/-- The part that is asked for. A number behind `sign` counts from the other end. -/
def partOf (sign : Char) (choices : List Choice) : Except String Part :=
  match (choices.reverse.find? fun c => c.letter = 'n' || c.letter = 'c') with
  | none => .ok ⟨false, false, 10⟩
  | some c =>
    let (fromOther, digits) : Bool × Octets :=
      match c.value with
      | first :: rest =>
        if first = sign then (true, rest)
        else if first = '-' || first = '+' then (false, rest)
        else (false, c.value)
      | [] => (false, [])
    match Octets.number? digits with
    | some count => .ok ⟨c.letter = 'c', fromOther, count⟩
    | none =>
      .error ("invalid number of " ++ (if c.letter = 'c' then "bytes" else "lines") ++ ": "
        ++ quoted c.value)

def Part.first (p : Part) (text : Octets) : Octets :=
  let lines := linesOf '\n' text
  match p.byBytes, p.fromOther with
  | true, false => text.take p.count
  | true, true => text.take (text.length - p.count)
  | false, false => join (lines.take p.count)
  | false, true => join (lines.take (lines.length - p.count))

def Part.last (p : Part) (text : Octets) : Octets :=
  let lines := linesOf '\n' text
  match p.byBytes, p.fromOther with
  | true, false => text.drop (text.length - p.count)
  | true, true => text.drop (p.count - 1)
  | false, false => join (lines.drop (lines.length - p.count))
  | false, true => join (lines.drop (p.count - 1))

/-- How much is read of an input at once. -/
def blockSize : Nat := 8192

/-- What is left of an input after its beginning was taken. -/
def Part.leaves (p : Part) (text : Octets) : Octets :=
  if p.fromOther then []
  else if p.byBytes then text.drop p.count
  else if (linesOf '\n' text).length < p.count then []
  else text.drop (((p.first text).length + blockSize - 1) / blockSize * blockSize)

/-- Parts of several texts have the names of the texts in front. -/
def withNames (pick : Octets → Octets) (texts : List (Octets × Octets)) : Octets :=
  match texts with
  | [] => []
  | [(_, text)] => pick text
  | texts =>
    let one (named : Octets × Octets) : Octets :=
      let name := if named.1 = ['-'] then "standard input".toList else named.1
      "==> ".toList ++ name ++ " <==\n".toList ++ pick named.2
    ['\n'].intercalate (texts.map one)

def openingComplaint (name : Octets) (e : FileError) : String :=
  "cannot open " ++ quoted name ++ " for reading: " ++ e.words

def head : Program := fun t =>
  match partNames.read (withOldCount t.arguments) with
  | .error message => t.refuses 1 (misused t.name message)
  | .ok (choices, names) =>
    match partOf '-' choices with
    | .error message => t.refuses 1 (t.remark message)
    | .ok part =>
      let s := t.sources openingComplaint names
      let outcome := t.endsAfter s 1 (withNames part.first s.texts)
      if s.drained then { outcome with left := part.leaves (t.input.getD []) } else outcome

def tail : Program := fun t =>
  match partNames.read (withOldCount t.arguments) with
  | .error message => t.refuses 1 (misused t.name message)
  | .ok (choices, names) =>
    match partOf '+' choices with
    | .error message => t.refuses 1 (t.remark message)
    | .ok part =>
      let s := t.sources openingComplaint names
      t.endsAfter s 1 (withNames part.last s.texts)

/-- The lines of a text in reverse. -/
def tac : Program := fun t =>
  match plainNames.read t.arguments with
  | .error message => t.refuses 1 (misused t.name message)
  | .ok (_, names) =>
    let s := t.sources (fun name e => "failed to open " ++ quoted name ++ " for reading: " ++ e.words)
      names
    t.endsAfter s 1 (s.texts.flatMap fun named => join (linesOf '\n' named.2).reverse)

/-! ### Order -/

/-- The number at the front of a line: its sign and its digits. -/
def leadingNumber (text : Octets) : Int :=
  match text.dropWhile Octets.isBlank with
  | '-' :: rest => -(Octets.number (rest.takeWhile Char.isDigit) : Int)
  | rest => Octets.number (rest.takeWhile Char.isDigit)

def sort : Program := fun t =>
  let names : ChoiceNames := ⟨['r', 'u', 'n', 's', 'f'], [], [],
    [("reverse", 'r'), ("unique", 'u'), ("numeric-sort", 'n'), ("stable", 's'), ("ignore-case", 'f')]⟩
  match names.read t.arguments with
  | .error message => t.refuses 2 (misused t.name message)
  | .ok (choices, files) =>
    let s := t.sources (fun name e => "cannot read: " ++ name.toText ++ ": " ++ e.words) files
    let has := chosen choices
    let folded (text : Octets) : Octets := if has 'f' then text.map Char.toUpper else text
    /- By what is asked for first, and then by all bytes. -/
    let before (a b : Line) : Bool :=
      if has 'n' then leadingNumber a.text < leadingNumber b.text else folded a.text < folded b.text
    let ordered (a b : Line) : Bool :=
      let (a, b) := if has 'r' then (b, a) else (a, b)
      if before a b then true
      else if before b a then false
      else has 'u' || has 's' || !(b.text < a.text)
    let same (a b : Line) : Bool := !before a b && !before b a
    let lines := (s.texts.flatMap fun named => endedLines named.2).mergeSort ordered
    let kept := if has 'u' then lines.eraseDupsBy same else lines
    if s.complaints.isEmpty then t.endsAfter s 2 (join kept) else t.endsAfter s 2 []

/-- Lines that follow each other and are the same, with their number. -/
def runs : List Line → List (Nat × Line)
  | [] => []
  | line :: rest =>
    match runs rest with
    | (n, next) :: others =>
      if line.text = next.text then (n + 1, line) :: others else (1, line) :: (n, next) :: others
    | [] => [(1, line)]

/-- A number in a field of seven places. -/
def field (n : Nat) : Octets :=
  let digits := Octets.ofNat n
  List.replicate (7 - digits.length) ' ' ++ digits

def uniq : Program := fun t =>
  let names : ChoiceNames := ⟨['c', 'd', 'u'], [], [],
    [("count", 'c'), ("repeated", 'd'), ("unique", 'u')]⟩
  match names.read t.arguments with
  | .error message => t.refuses 1 (misused t.name message)
  | .ok (choices, files) =>
    let s := t.sources (fun name e => name.toText ++ ": " ++ e.words) files
    let has := chosen choices
    let kept := (runs (s.texts.flatMap fun named => endedLines named.2)).filter fun (n, _) =>
      (!has 'd' || 1 < n) && (!has 'u' || n = 1)
    t.endsAfter s 1 (kept.flatMap fun (n, line) =>
      (if has 'c' then field n ++ [' '] else []) ++ written line)

/-! ### Counts -/

/-- How many words a text has. -/
def wordCount (text : Octets) : Nat :=
  let step (state : Nat × Bool) (c : Char) : Nat × Bool :=
    if Octets.isSpace c then (state.1, false)
    else (if state.2 then state.1 else state.1 + 1, true)
  (text.foldl step (0, false)).1

def wc : Program := fun t =>
  let names : ChoiceNames := ⟨['l', 'w', 'c', 'm'], [], [],
    [("lines", 'l'), ("words", 'w'), ("bytes", 'c'), ("chars", 'm')]⟩
  match names.read t.arguments with
  | .error message => t.refuses 1 (misused t.name message)
  | .ok (choices, files) =>
    let s := t.sources (fun name e => name.toText ++ ": " ++ e.words) files
    let letters := ['l', 'w', 'm', 'c'].filter (chosen choices)
    let letters := if letters.isEmpty then ['l', 'w', 'c'] else letters
    let count (text : Octets) (letter : Char) : Nat :=
      if letter = 'l' then text.count '\n'
      else if letter = 'w' then wordCount text
      else text.length
    /- Counts of an input get wide fields, those of files only as much as they need. -/
    let width (named : Octets × Octets) : Nat :=
      if letters.length = 1 && s.texts.length ≤ 1 then 0
      else if files.isEmpty || files.contains ['-'] then 7
      else (Octets.ofNat (named.2.length)).length
    let line (width : Nat) (name : Octets) (counts : List Nat) : Octets :=
      let fields := counts.map fun n =>
        let digits := Octets.ofNat n
        List.replicate (width - digits.length) ' ' ++ digits
      [' '].intercalate fields ++ (if files.isEmpty then [] else ' ' :: name) ++ ['\n']
    let widest := (s.texts.map width).foldl max 0
    let lines := s.texts.flatMap fun named =>
      line widest named.1 (letters.map (count named.2))
    let whole := s.texts.flatMap (·.2)
    let total :=
      if files.length ≤ 1 then []
      else
        line widest "total".toList (letters.map fun letter =>
          (s.texts.map fun named => count named.2 letter).foldl (· + ·) 0)
    t.endsAfter s 1 (if whole.isEmpty && s.texts.isEmpty then [] else lines ++ total)

end ConnectorSchema.Filter.Lines
