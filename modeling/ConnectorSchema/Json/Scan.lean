import ConnectorSchema.Json.Node

/-!
From text to `Node`. Scanning never fails: faults become part of the tree. Each scanner gives the
text that it leaves, and leaves nothing after a fault. `scan` reads a whole document and says
whether something other than blanks follows its value.
-/

namespace ConnectorSchema.Json

def isJsonBlank (c : Char) : Bool := c == ' ' || c == '\n' || c == '\t' || c == '\r'

def skipBlanks (text : List Char) : List Char := text.dropWhile isJsonBlank

/-- Reads the rest of a word whose first letter has been seen. -/
def scanWord (meaning : Scalar) : (word text : List Char) → Scalar × List Char
  | [], text => (meaning, text)
  | _ :: _, [] => (.broken .wordCut, [])
  | w :: word, c :: text =>
    if w = c then scanWord meaning word text else (.broken .wordWrong, [])

/-- A number that stops where a digit is needed. -/
def digitMissing (text : List Char) : Scalar × List Char :=
  (.broken (if text.isEmpty then .numeralCut else .numeralWrong), [])

/-- Reads what may follow the digits of a number: an exponent. -/
def scanExponent (negative : Bool) (whole fraction text : List Char) : Scalar × List Char :=
  match text with
  | e :: rest =>
    if e = 'e' ∨ e = 'E' then
      let (minus, rest) :=
        match rest with
        | '-' :: rest => (true, rest)
        | '+' :: rest => (false, rest)
        | rest => (false, rest)
      let digits := rest.takeWhile Number.isDigit
      let after := rest.dropWhile Number.isDigit
      if digits = [] then digitMissing after
      else (.numeral ⟨negative, whole, fraction, some (minus, digits)⟩, after)
    else (.numeral ⟨negative, whole, fraction, none⟩, text)
  | [] => (.numeral ⟨negative, whole, fraction, none⟩, [])

/-- Reads a number whose sign has been seen. A zero in front must stand alone. -/
def scanNumeral (negative : Bool) (text : List Char) : Scalar × List Char :=
  let whole := text.takeWhile Number.isDigit
  let after := text.dropWhile Number.isDigit
  match whole with
  | [] => digitMissing after
  | '0' :: _ :: _ => (.broken .numeralWrong, [])
  | _ =>
    match after with
    | '.' :: rest =>
      let fraction := rest.takeWhile Number.isDigit
      let after := rest.dropWhile Number.isDigit
      if fraction = [] then digitMissing after else scanExponent negative whole fraction after
    | after => scanExponent negative whole [] after

def hexValue? (c : Char) : Option Nat :=
  if '0' ≤ c ∧ c ≤ '9' then some (c.toNat - '0'.toNat)
  else if 'a' ≤ c ∧ c ≤ 'f' then some (c.toNat - 'a'.toNat + 10)
  else if 'A' ≤ c ∧ c ≤ 'F' then some (c.toNat - 'A'.toNat + 10)
  else none

/-- The unit that four hexadecimal digits name. -/
def hexUnit? (a b c d : Char) : Option Nat := do
  return (((← hexValue? a) * 16 + (← hexValue? b)) * 16 + (← hexValue? c)) * 16 + (← hexValue? d)

/-- The character that a letter after a backslash stands for. -/
def simpleEscape? : Char → Option Char
  | '"' => some '"'
  | '\\' => some '\\'
  | '/' => some '/'
  | 'b' => some '\x08'
  | 'f' => some '\x0c'
  | 'n' => some '\n'
  | 'r' => some '\r'
  | 't' => some '\t'
  | _ => none

/-- Whether the bytes of a text end before the fourth. -/
def lacksHexDigits (text : List Char) : Bool :=
  (text.take 4).foldl (fun bytes c => bytes + c.utf8Size) 0 < 4

/-- Puts a piece in front of a string scanned behind it. -/
def RawString.cons (piece : Piece) (scanned : RawString × List Char) : RawString × List Char :=
  ({ scanned.1 with pieces := piece :: scanned.1.pieces }, scanned.2)

/-- Reads a string whose opening quote has been seen. -/
def scanString : List Char → RawString × List Char
  | [] => (⟨[], some .cut⟩, [])
  | '"' :: rest => (⟨[], none⟩, rest)
  | '\\' :: 'u' :: a :: b :: c :: d :: rest =>
    match hexUnit? a b c d with
    | some code => RawString.cons (.unit code) (scanString rest)
    | none => (⟨[], some .badHex⟩, [])
  | '\\' :: 'u' :: rest => (⟨[], some (if lacksHexDigits rest then .cut else .badHex)⟩, [])
  | '\\' :: e :: rest =>
    match simpleEscape? e with
    | some c => RawString.cons (.char c) (scanString rest)
    | none => (⟨[], some .badEscape⟩, [])
  | ['\\'] => (⟨[], some .cut⟩, [])
  | c :: rest =>
    if c.toNat < 32 then (⟨[], some .control⟩, []) else RawString.cons (.char c) (scanString rest)

/-- Reads a value without parts. -/
def scanScalar (first : Char) (rest : List Char) : Scalar × List Char :=
  match first with
  | 'n' => scanWord .null ['u', 'l', 'l'] rest
  | 't' => scanWord (.boolean true) ['r', 'u', 'e'] rest
  | 'f' => scanWord (.boolean false) ['a', 'l', 's', 'e'] rest
  | '"' =>
    let (s, rest) := scanString rest
    (.string s, rest)
  | '-' => scanNumeral true rest
  | c => if Number.isDigit c then scanNumeral false (c :: rest) else (.broken .noValue, [])

mutual

/-- Reads a value. The first argument bounds the number of steps; see `scan`. -/
def scanValue : Nat → List Char → Node × List Char
  | 0, _ => (.scalar (.broken .absent), [])
  | steps + 1, text =>
    match skipBlanks text with
    | [] => (.scalar (.broken .absent), [])
    | '[' :: rest =>
      let (items, stop, rest) := scanItems steps true rest
      (.list items stop, rest)
    | '{' :: rest =>
      let (members, stop, rest) := scanMembers steps true rest
      (.object members stop, rest)
    | c :: rest =>
      let (s, rest) := scanScalar c rest
      (.scalar s, rest)

/-- Reads the elements of a list up to its bracket. -/
def scanItems : Nat → (first : Bool) → List Char → List Node × Option ListStop × List Char
  | 0, _, _ => ([], some .cut, [])
  | steps + 1, first, text =>
    match skipBlanks text with
    | [] => ([], some .cut, [])
    | ']' :: rest => ([], none, rest)
    | c :: rest =>
      if first then scanItem steps (c :: rest)
      else if c = ',' then
        match skipBlanks rest with
        | [] => ([], some .cutAfterComma, [])
        | ']' :: _ => ([], some .closedAfterComma, [])
        | rest => scanItem steps rest
      else ([], some .stray, [])

/-- Reads one element and those after it. -/
def scanItem : Nat → List Char → List Node × Option ListStop × List Char
  | 0, _ => ([], some .cut, [])
  | steps + 1, text =>
    let (item, rest) := scanValue steps text
    let (items, stop, rest) := scanItems steps false rest
    (item :: items, stop, rest)

/-- Reads the members of an object up to its brace. -/
def scanMembers :
    Nat → (first : Bool) → List Char → List (RawString × Node) × Option ObjectStop × List Char
  | 0, _, _ => ([], some .cut, [])
  | steps + 1, first, text =>
    match skipBlanks text with
    | [] => ([], some .cut, [])
    | '}' :: rest => ([], none, rest)
    | c :: rest =>
      if first then
        if c = '"' then scanMember steps rest else ([], some .keyless, [])
      else if c = ',' then
        match skipBlanks rest with
        | [] => ([], some .cutAfterComma, [])
        | '}' :: _ => ([], some .closedAfterComma, [])
        | '"' :: rest => scanMember steps rest
        | _ => ([], some .keyless, [])
      else ([], some .stray, [])

/-- Reads one member, whose opening quote has been seen, and those after it. -/
def scanMember : Nat → List Char → List (RawString × Node) × Option ObjectStop × List Char
  | 0, _ => ([], some .cut, [])
  | steps + 1, text =>
    let (key, rest) := scanString text
    let (value, rest) :=
      match skipBlanks rest with
      | ':' :: rest => scanValue steps rest
      | [] => (.scalar (.broken .colonAbsent), [])
      | _ => (.scalar (.broken .colonWrong), [])
    let (members, stop, rest) := scanMembers steps false rest
    ((key, value) :: members, stop, rest)

end

/-- A document: its value, and whether more than blanks comes after it. -/
structure Scanned where
  root : Node
  trailing : Bool

/-- The tree of a whole text. Each character takes part in at most three steps: in the scanner that
consumes it, in the container's that looks for it, and in that of the element it begins. -/
def scan (text : String) : Scanned :=
  let (root, rest) := scanValue (3 * text.length + 3) text.toList
  ⟨root, !(skipBlanks rest).isEmpty⟩

end ConnectorSchema.Json
