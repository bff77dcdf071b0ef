import ConnectorSchema.Json.Number

/-!
A JSON text as a tree of what was found in it, faults included. The tree is the lenient half of
reading: it keeps numbers and strings as they are written, repeated keys, and the place where the
text goes wrong. What comes after such a place is not read, so everything around it counts as cut
off by the end of the text. The strict half reads a tree from left to right and reports the first
thing it dislikes; a value nobody asked for is only skipped, with rules of its own.
-/

namespace ConnectorSchema.Json

/-- A part of a string between its quotes. -/
inductive Piece where
  | char (c : Char)
  /-- A `\u` escape: one UTF-16 unit. -/
  | unit (code : Nat)
deriving DecidableEq

/-- What ends a string other than its closing quote. -/
inductive StringFault where
  | cut
  | control
  | badEscape
  | badHex
deriving DecidableEq

def StringFault.fault : StringFault → Fault
  | .cut => .endInString
  | .control => .controlCharacter
  | .badEscape => .escapeUnknown
  | .badHex => .escapeUnknown

/-- A string as written. -/
structure RawString where
  pieces : List Piece
  stop : Option StringFault
deriving DecidableEq

def isLeadingSurrogate (n : Nat) : Bool := 0xD800 ≤ n && n ≤ 0xDBFF

def isTrailingSurrogate (n : Nat) : Bool := 0xDC00 ≤ n && n ≤ 0xDFFF

/-- The fault when a leading surrogate is followed by the end of the pieces. An unfinished escape
is reported as such, anything else as the lack of one. -/
def StringFault.afterSurrogate : Option StringFault → Fault
  | some .cut => .endInString
  | some .badHex => .escapeUnknown
  | _ => .escapeCutShort

/-- The characters of a string. Surrogates must come in pairs. -/
def RawString.chars (stop : Option StringFault) : List Piece → Except Fault (List Char)
  | [] =>
    match stop with
    | none => .ok []
    | some f => .error f.fault
  | .char c :: rest => (chars stop rest).map (c :: ·)
  | .unit n :: .unit m :: rest =>
    if isTrailingSurrogate n then .error .surrogateAlone
    else if isLeadingSurrogate n then
      if isTrailingSurrogate m then
        (chars stop rest).map (Char.ofNat ((n - 0xD800) * 1024 + (m - 0xDC00) + 0x10000) :: ·)
      else .error .surrogateAlone
    else (chars stop (.unit m :: rest)).map (Char.ofNat n :: ·)
  | .unit n :: rest =>
    if isTrailingSurrogate n then .error .surrogateAlone
    else if isLeadingSurrogate n then
      if rest.isEmpty then .error (StringFault.afterSurrogate stop) else .error .escapeCutShort
    else (chars stop rest).map (Char.ofNat n :: ·)

def RawString.text (s : RawString) : Except Fault String :=
  (RawString.chars s.stop s.pieces).map String.ofList

/-- Passes over a string without looking at its surrogates. -/
def RawString.skip (s : RawString) : Except Fault Unit :=
  match s.stop with
  | none => .ok ()
  | some f => .error f.fault

/-- What stands where a value should. -/
inductive Broken where
  | absent
  | noValue
  | wordCut
  | wordWrong
  | numeralCut
  | numeralWrong
  | colonAbsent
  | colonWrong
deriving DecidableEq

def Broken.fault : Broken → Fault
  | .absent => .endInValue
  | .noValue => .valueExpected
  | .wordCut => .endInValue
  | .wordWrong => .wordBroken
  | .numeralCut => .endInValue
  | .numeralWrong => .numberMalformed
  | .colonAbsent => .endInObject
  | .colonWrong => .colonExpected

/-- The fault when the value is skipped: a number that ends too early is then a malformed one. -/
def Broken.skipFault : Broken → Fault
  | .numeralCut => .numberMalformed
  | b => b.fault

/-- A value without parts. -/
inductive Scalar where
  | null
  | boolean (b : Bool)
  | numeral (n : Numeral)
  | string (s : RawString)
  | broken (b : Broken)
deriving DecidableEq

/-- What stops a list other than its closing bracket. -/
inductive ListStop where
  | cut
  | stray
  | closedAfterComma
  | cutAfterComma
deriving DecidableEq

def ListStop.fault : ListStop → Fault
  | .cut => .endInList
  | .stray => .listNotContinued
  | .closedAfterComma => .trailingComma
  | .cutAfterComma => .endInValue

def ListStop.skipFault : ListStop → Fault
  | .closedAfterComma => .valueExpected
  | s => s.fault

/-- The fault when no further element is wanted. -/
def ListStop.faultAtEnd : ListStop → Fault
  | .cut => .endInList
  | .stray => .trailingText
  | .closedAfterComma => .trailingComma
  | .cutAfterComma => .trailingText

/-- What stops an object other than its closing brace. -/
inductive ObjectStop where
  | cut
  | stray
  /-- Something that is no string stands where a key should. -/
  | keyless
  | closedAfterComma
  | cutAfterComma
deriving DecidableEq

def ObjectStop.fault : ObjectStop → Fault
  | .cut => .endInObject
  | .stray => .objectNotContinued
  | .keyless => .keyNotString
  | .closedAfterComma => .trailingComma
  | .cutAfterComma => .endInValue

def ObjectStop.skipFault : ObjectStop → Fault
  | .closedAfterComma => .keyNotString
  | .cutAfterComma => .endInObject
  | s => s.fault

/-- A value. A list or an object is closed when its `stop` is absent. -/
inductive Node where
  | scalar (s : Scalar)
  | list (items : List Node) (stop : Option ListStop)
  | object (members : List (RawString × Node)) (stop : Option ObjectStop)

def Scalar.skip : Scalar → Except Fault Unit
  | .string s => s.skip
  | .broken b => .error b.skipFault
  | _ => .ok ()

/-- The result for a container whose parts are all in order. -/
def endOr {Stop : Type} (fault : Stop → Fault) : Option Stop → Except Fault Unit
  | none => .ok ()
  | some stop => .error (fault stop)

mutual

/-- Passes over a value that nobody asked for. Only its form matters. -/
def Node.skip : Node → Except Fault Unit
  | .scalar s => s.skip
  | .list items stop => do
    skipItems items
    endOr ListStop.skipFault stop
  | .object members stop => do
    skipMembers members
    endOr ObjectStop.skipFault stop

def skipItems : List Node → Except Fault Unit
  | [] => .ok ()
  | item :: rest => do
    item.skip
    skipItems rest

def skipMembers : List (RawString × Node) → Except Fault Unit
  | [] => .ok ()
  | (key, value) :: rest => do
    key.skip
    value.skip
    skipMembers rest

end

/-- The kind of a scalar, once it has been read as strictly as any other. -/
def Scalar.found : Scalar → Except Fault Found
  | .null => .ok .null
  | .boolean b => .ok (.boolean b)
  | .numeral n => do
    match ← n.value with
    | .integer n _ => .ok (.integer n)
    | .double d => .ok (.double d)
  | .string s => s.text.map .text
  | .broken b => .error b.fault

def Node.found : Node → Except Fault Found
  | .scalar s => s.found
  | .list _ _ => .ok .list
  | .object _ _ => .ok .object

end ConnectorSchema.Json
