import ConnectorSchema.Filter.Pattern.Basic
import ConnectorSchema.Filter.Octets

/-!
Reading regular expressions in their basic and their extended notation. In the basic one, operators
are written with a backslash in front, and a star or an anchor that can be none stands for itself.
-/

namespace ConnectorSchema.Filter.Pattern

/-- What is wrong with a written pattern. -/
inductive Fault where
  | group
  | groupEnd
  | bracket
  | bracketEmpty
  | range
  | className
  | collation
  | count
  | countOpen
  | countTooBig
  | repetition
  | reference
  | backslash
  /-- A class name stands in single brackets. -/
  | bareClass
deriving DecidableEq, Repr

def Fault.message : Fault → String
  | .group => "Unmatched ( or \\("
  | .groupEnd => "Unmatched ) or \\)"
  | .bracket => "Unmatched [, [^, [:, [., or [="
  | .bracketEmpty => "Invalid regular expression"
  | .range => "Invalid range end"
  | .className => "Invalid character class name"
  | .collation => "Invalid collation character"
  | .count => "Invalid content of \\\x7b\\\x7d"
  | .countOpen => "Unmatched \\\x7b"
  | .countTooBig => "Regular expression too big"
  | .repetition => "Invalid preceding regular expression"
  | .reference => "Invalid back reference"
  | .backslash => "Trailing backslash"
  | .bareClass => "character class syntax is [[:space:]], not [:space:]"

/-- How patterns are written and meant. -/
structure Manner where
  extended : Bool
  anyCase : Bool
  /-- Whether anchors hold at the ends of lines within a text, over which a dot does not go. -/
  byLine : Bool

/-- A sign of the notation. -/
inductive Sign where
  | byte (c : Char)
  | test (t : ByteTest)
  | bracket
  | edge (e : Edge)
  | groupStart
  | groupEnd
  | bar
  | star
  | plus
  | question
  | countStart
  | earlier (n : Nat)
  | stop
  | loneBackslash
deriving DecidableEq

namespace Manner

/-- A byte with its other case, if that does not matter. -/
def testOf (m : Manner) (c : Char) : ByteTest :=
  if m.anyCase then ⟨[.single c, .single (Span.otherCase c)], false⟩ else .single c

def anyByte (m : Manner) : ByteTest := ⟨if m.byLine then [.single '\n'] else [], true⟩

/-- A sign that is written with a backslash in both notations. -/
def commonSign (c : Char) : Sign :=
  match c with
  | 'w' => .test ⟨Span.word, false⟩
  | 'W' => .test ⟨Span.word, true⟩
  | 's' => .test ⟨Span.space, false⟩
  | 'S' => .test ⟨Span.space, true⟩
  | 'b' => .edge .wordEdge
  | 'B' => .edge .noWordEdge
  | '<' => .edge .wordStart
  | '>' => .edge .wordEnd
  | '\x60' => .edge .textStart
  | '\'' => .edge .textEnd
  | c => if Span.digit.has c && c ≠ '0' then .earlier (c.toNat - '0'.toNat) else .byte c

/-- The operators that the basic notation writes with a backslash, and the extended one without. -/
def operator? : Char → Option Sign
  | '(' => some .groupStart
  | ')' => some .groupEnd
  | '|' => some .bar
  | '+' => some .plus
  | '?' => some .question
  | '\x7b' => some .countStart
  | _ => none

def startEdge (m : Manner) : Sign := .edge (if m.byLine then .lineStart else .textStart)

def endEdge (m : Manner) : Sign := .edge (if m.byLine then .lineEnd else .textEnd)

/-- Whether a text begins with a sign that can end what an anchor closes. -/
def closes (m : Manner) (text : Octets) : Bool :=
  match text with
  | [] => true
  | '\\' :: c :: _ => !m.extended && (c = ')' || c = '|')
  | c :: _ => m.extended && (c = ')' || c = '|')

/-- The sign at the front of a text, and what follows. A caret may be an anchor at some places
only. -/
def takeSign (m : Manner) (atStart : Bool) (text : Octets) : Sign × Octets :=
  match text with
  | [] => (.stop, [])
  | ['\\'] => (.loneBackslash, [])
  | '\\' :: c :: rest =>
    match operator? c with
    | some sign => (if m.extended then .byte c else sign, rest)
    | none => (commonSign c, rest)
  | '*' :: rest => (.star, rest)
  | '[' :: rest => (.bracket, rest)
  | '.' :: rest => (.test m.anyByte, rest)
  | '^' :: rest => (if m.extended || atStart then m.startEdge else .byte '^', rest)
  | '$' :: rest => (if m.extended || m.closes rest then m.endEdge else .byte '$', rest)
  | c :: rest =>
    match operator? c with
    | some sign => (if m.extended then sign else .byte c, rest)
    | none => (.byte c, rest)

end Manner

/-! ### Brackets -/

/-- One part of a bracket, which may begin or end a range if it is a single byte. -/
inductive BracketPart where
  | single (c : Char)
  | spans (s : List Span)

/-- What is written up to a mark and a closing bracket, and what follows. -/
def takeMarked (mark : Char) : Octets → Option (Octets × Octets)
  | [] => none
  | [_] => none
  | a :: b :: rest =>
    if a = mark && b = ']' then some ([], rest)
    else (takeMarked mark (b :: rest)).map fun found => (a :: found.1, found.2)

/-- The part at the front of a bracket. -/
def takePart (text : Octets) : Except Fault (BracketPart × Octets) :=
  let marked (mark : Char) (rest : Octets) (meaning : Octets → Except Fault BracketPart) :
      Except Fault (BracketPart × Octets) :=
    match takeMarked mark rest with
    | none => .error .bracket
    | some (name, rest) => (meaning name).map fun part => (part, rest)
  let element (name : Octets) : Except Fault Char :=
    match name with
    | [c] => .ok c
    | _ => .error .collation
  match text with
  | [] => .error .bracket
  | '[' :: ':' :: rest =>
    marked ':' rest fun name =>
      match Span.named? name.toText with
      | some spans => .ok (.spans spans)
      | none => .error .className
  | '[' :: '=' :: rest => marked '=' rest fun name => (element name).map fun c => .spans [.single c]
  | '[' :: '.' :: rest => marked '.' rest fun name => (element name).map .single
  | c :: rest => .ok (.single c, rest)

/-- The parts of a bracket up to its end. A hyphen that is neither first nor last means a range. The
first argument bounds the number of steps. -/
def takeParts : Nat → (first : Bool) → Octets → Except Fault (List Span × Octets)
  | 0, _, _ => .error .bracket
  | steps + 1, first, text => do
    let text ← (match first, text with
      | false, ']' :: rest => .ok (Sum.inr rest)
      | false, '-' :: ']' :: rest => .ok (Sum.inl ('-' :: ']' :: rest))
      | false, '-' :: _ => .error Fault.range
      | _, text => .ok (Sum.inl text))
    match text with
    | .inr rest => return ([], rest)
    | .inl text =>
      let (part, rest) ← takePart text
      let more (spans : List Span) (rest : Octets) : Except Fault (List Span × Octets) := do
        let (others, rest) ← takeParts steps false rest
        return (spans ++ others, rest)
      match part, rest with
      | .single c, '-' :: d :: after =>
        if d = ']' then more [.single c] rest
        else
          let (last, after) ← takePart (d :: after)
          match last with
          | .single e => if c ≤ e then more [⟨c, e⟩] after else .error .range
          | .spans _ => .error .range
      | .single c, rest => more [.single c] rest
      | .spans s, rest => more s rest

/-- The spans with the other case of their letters. -/
def bothCases (spans : List Span) : List Span :=
  spans ++ ((Span.upper.members ++ Span.lower.members).filter (inSpans spans)).map fun c =>
    .single (Span.otherCase c)

/-- Whether brackets hold a class name as if they were double. -/
def isBareClass (text : Octets) : Bool :=
  let text := if text.head? = some '^' then text.tail else text
  let inside := text.takeWhile (· ≠ ']')
  inside.head? = some ':' && inside.getLast? = some ':' && inside.any (· ≠ ':')
    && inside.all fun c => c ≠ '-' && c ≠ '['

/-- The test that a bracket writes, and what follows. -/
def takeBracket (m : Manner) (text : Octets) : Except Fault (ByteTest × Octets) := do
  let (negated, inside) :=
    match text with
    | '^' :: rest => (true, rest)
    | text => (false, text)
  if inside.isEmpty then .error .bracketEmpty
  else
    let (spans, rest) ← takeParts (inside.length + 1) true inside
    let spans := if m.anyCase then bothCases spans else spans
    return (⟨if negated && m.byLine then .single '\n' :: spans else spans, negated⟩, rest)

/-! ### Repetitions -/

/-- The most repetitions that can be asked for. -/
def maxCount : Nat := 32767

/-- How often something is repeated: at least, and at most if there is a limit. -/
structure Count where
  least : Nat
  most? : Option Nat

/-- The digits at the front of a text as a number, and what follows. -/
def takeDigits (text : Octets) : Option Nat × Octets :=
  let digits := text.takeWhile Char.isDigit
  (if digits.isEmpty then none else some (Octets.number digits), text.drop digits.length)

/-- The count at the front of a text, behind its opening brace. -/
def takeCount (m : Manner) (text : Octets) : Except Fault (Count × Octets) :=
  let close (text : Octets) : Option Octets :=
    match m.extended, text with
    | true, '\x7d' :: rest => some rest
    | false, '\\' :: '\x7d' :: rest => some rest
    | _, _ => none
  let finish (least : Nat) (most? : Option Nat) (text : Octets) : Except Fault (Count × Octets) :=
    match close text with
    | none => .error (if text.isEmpty then .countOpen else .count)
    | some rest =>
      if most?.any (· < least) then .error .count
      else if maxCount < most?.getD least then .error .countTooBig
      else .ok (⟨least, most?⟩, rest)
  let (first?, rest) := takeDigits text
  match first?, rest with
  | none, [] => .error .countOpen
  | first?, ',' :: rest =>
    let (second?, rest) := takeDigits rest
    finish (first?.getD 0) second? rest
  | some n, rest => finish n (some n) rest
  | none, _ => .error .count

/-- A pattern with a repetition. -/
def repeated (p : Pattern) (c : Count) : Pattern :=
  match c.most? with
  | none => (p.times c.least).andThen (.many p)
  | some most => (p.times c.least).andThen (p.atMost (most - c.least))

/-- Applies the repetitions at the front of a text to a pattern, and gives back what follows. The
basic notation does not allow a star or a count after one. The first argument bounds the number of
steps. -/
def takeRepetitions (m : Manner) : Nat → Pattern → Octets → Except Fault (Pattern × Octets)
  | 0, p, text => .ok (p, text)
  | steps + 1, p, text => do
    let goOn (p : Pattern) (rest : Octets) : Except Fault (Pattern × Octets) :=
      let next := (m.takeSign false rest).1
      if !m.extended && (next = .star || next = .countStart) then .error .repetition
      else takeRepetitions m steps p rest
    match m.takeSign false text with
    | (.star, rest) => goOn (.many p) rest
    | (.plus, rest) => goOn (p.andThen (.many p)) rest
    | (.question, rest) => goOn (.either p .empty) rest
    | (.countStart, rest) => do
      let (count, rest) ← takeCount m rest
      goOn (p.repeated count) rest
    | _ => .ok (p, text)

/-! ### Expressions -/

/-- How far the reading has come. -/
structure Reading where
  rest : Octets
  /-- The number of groups that have begun. -/
  groups : Nat
  /-- The groups that have ended on the way here. -/
  closed : List Nat
  /-- Whether a bracket was met that may be meant as a class. -/
  bareClass : Bool

mutual

/-- Alternatives up to the end of a group or of the whole. References may mean only groups that lie
on the way. -/
def readAlternatives (m : Manner) : Nat → (nested : Bool) → Reading →
    Except Fault (Pattern × Reading)
  | 0, _, r => .ok (.empty, r)
  | steps + 1, nested, r => do
    let (p, after) ← readBranch m steps nested true r
    match m.takeSign false after.rest with
    | (.bar, rest) =>
      let (q, last) ← readAlternatives m steps nested { after with rest, closed := r.closed }
      return (.either p q, { last with closed := after.closed ++ last.closed })
    | _ => return (p, after)

/-- A sequence up to a bar or to the end of a group. -/
def readBranch (m : Manner) : Nat → (nested atStart : Bool) → Reading →
    Except Fault (Pattern × Reading)
  | 0, _, _, r => .ok (.empty, r)
  | steps + 1, nested, atStart, r => do
    let (sign, rest) := m.takeSign atStart r.rest
    let here := { r with rest }
    let follow (p : Pattern) (after : Reading) : Except Fault (Pattern × Reading) := do
      let (p, rest) ← takeRepetitions m after.rest.length p after.rest
      let (q, last) ← readBranch m steps nested false { after with rest }
      return (p.andThen q, last)
    match sign with
    | .stop | .bar => return (.empty, r)
    | .groupEnd => if nested then return (.empty, r) else .error .groupEnd
    | .byte c => follow (.one (m.testOf c)) here
    | .test t => follow (.one t) here
    | .bracket =>
      let (t, after) ← takeBracket m rest
      follow (.one t) { r with rest := after, bareClass := r.bareClass || isBareClass rest }
    | .edge e =>
      let (q, last) ← readBranch m steps nested true here
      return (Pattern.andThen (.edge e) q, last)
    | .groupStart =>
      let number := r.groups + 1
      let (p, after) ← readAlternatives m steps true { here with groups := number }
      match m.takeSign false after.rest with
      | (.groupEnd, rest) =>
        follow (.group number p) { after with rest, closed := number :: after.closed }
      | _ => .error .group
    | .star => if m.extended then .error .repetition else follow (.one (.single '*')) here
    | .plus => if m.extended then .error .repetition else follow (.one (.single '+')) here
    | .question => if m.extended then .error .repetition else follow (.one (.single '?')) here
    | .countStart => .error .repetition
    | .earlier n =>
      if r.closed.contains n then follow (.earlier n m.anyCase) here else .error .reference
    | .loneBackslash => .error .backslash

end

/-- A pattern with the number of its groups. -/
structure Whole where
  pattern : Pattern
  groups : Nat
deriving DecidableEq

/-- Reads a pattern. -/
def read (m : Manner) (text : Octets) : Except Fault Whole := do
  let (p, r) ← readAlternatives m (2 * text.length + 2) false ⟨text, 0, [], false⟩
  if r.bareClass then .error .bareClass else return ⟨p, r.groups⟩

end ConnectorSchema.Filter.Pattern
