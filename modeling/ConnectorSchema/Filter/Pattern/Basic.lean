import ConnectorSchema.Filter.Span

/-!
Regular expressions as trees, and what it means for one to go on after a byte. A place in a text is
known by the bytes on its two sides; edges are tests of a place.
-/

namespace ConnectorSchema.Filter

/-- A test of one byte. -/
structure ByteTest where
  spans : List Span
  negated : Bool
deriving DecidableEq, Repr

namespace ByteTest

def holds (t : ByteTest) (c : Char) : Bool := inSpans t.spans c != t.negated

def single (c : Char) : ByteTest := ⟨[.single c], false⟩

end ByteTest

/-- A test of a place. -/
inductive Edge where
  | textStart
  | textEnd
  | lineStart
  | lineEnd
  | wordStart
  | wordEnd
  | wordEdge
  | noWordEdge
deriving DecidableEq, Repr

/-- A place in a text: the bytes before and after it, if there are any. -/
structure Place where
  before : Option Char
  after : Option Char

def Place.inWordBefore (p : Place) : Bool := p.before.any (inSpans Span.word)

def Place.inWordAfter (p : Place) : Bool := p.after.any (inSpans Span.word)

def Edge.holds (p : Place) : Edge → Bool
  | .textStart => p.before.isNone
  | .textEnd => p.after.isNone
  | .lineStart => p.before.all (· = '\n')
  | .lineEnd => p.after.all (· = '\n')
  | .wordStart => !p.inWordBefore && p.inWordAfter
  | .wordEnd => p.inWordBefore && !p.inWordAfter
  | .wordEdge => p.inWordBefore != p.inWordAfter
  | .noWordEdge => p.inWordBefore == p.inWordAfter

inductive Pattern where
  /-- The empty text. -/
  | empty
  | one (test : ByteTest)
  | edge (e : Edge)
  | seq (first second : Pattern)
  | either (first second : Pattern)
  | many (p : Pattern)
  | group (number : Nat) (p : Pattern)
  /-- The text that a group holds, perhaps in other case. -/
  | earlier (number : Nat) (anyCase : Bool)
deriving DecidableEq, Repr

namespace Pattern

/-- One pattern after another, of which empty ones are left out. -/
def andThen : Pattern → Pattern → Pattern
  | .empty, q => q
  | p, .empty => p
  | p, q => .seq p q

/-- A pattern as often as a number says. -/
def times (p : Pattern) : Nat → Pattern
  | 0 => .empty
  | n + 1 => p.andThen (times p n)

/-- A pattern at most as often as a number says. -/
def atMost (p : Pattern) : Nat → Pattern
  | 0 => .empty
  | n + 1 => .either (p.andThen (atMost p n)) .empty

/-- Whether a pattern asks for the text of a group. -/
def looksBack : Pattern → Bool
  | .empty | .one _ | .edge _ => false
  | .seq p q | .either p q => p.looksBack || q.looksBack
  | .many p | .group _ p => p.looksBack
  | .earlier .. => true

/-- Whether a pattern holds of the empty text at a place. -/
def endsAt (here : Place) : Pattern → Bool
  | .empty | .many _ => true
  | .one _ | .earlier .. => false
  | .edge e => e.holds here
  | .seq p q => p.endsAt here && q.endsAt here
  | .either p q => p.endsAt here || q.endsAt here
  | .group _ p => p.endsAt here

/-- The patterns that may hold of what comes after a byte, if the byte stands after a place. -/
def following (here : Place) (c : Char) : Pattern → List Pattern
  | .empty | .edge _ | .earlier .. => []
  | .one test => if test.holds c then [.empty] else []
  | .seq p q =>
    let inFirst := (p.following here c).map (·.andThen q)
    if p.endsAt here then inFirst ++ q.following here c else inFirst
  | .either p q => p.following here c ++ q.following here c
  | .many p => (p.following here c).map (·.andThen (.many p))
  | .group _ p => p.following here c

end Pattern

end ConnectorSchema.Filter
