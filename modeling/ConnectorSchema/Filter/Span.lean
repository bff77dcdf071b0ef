import ConnectorSchema.Filter.Octets

/-!
Sets of bytes, as spans from one byte to another, and the classes of bytes that have names.
-/

namespace ConnectorSchema.Filter

/-- All bytes from one to another. -/
structure Span where
  low : Char
  high : Char
deriving DecidableEq, Repr

namespace Span

def has (s : Span) (c : Char) : Bool := s.low ≤ c && c ≤ s.high

def single (c : Char) : Span := ⟨c, c⟩

def all : Span := ⟨'\x00', '\xff'⟩

/-- The bytes of a span in order. -/
def members (s : Span) : Octets :=
  (List.range (s.high.toNat + 1 - s.low.toNat)).map fun i => Char.ofNat (s.low.toNat + i)

def upper : Span := ⟨'A', 'Z'⟩

def lower : Span := ⟨'a', 'z'⟩

def digit : Span := ⟨'0', '9'⟩

/-- The spans of a named class, in order. -/
def named? : String → Option (List Span)
  | "upper" => some [upper]
  | "lower" => some [lower]
  | "alpha" => some [upper, lower]
  | "digit" => some [digit]
  | "xdigit" => some [digit, ⟨'A', 'F'⟩, ⟨'a', 'f'⟩]
  | "alnum" => some [digit, upper, lower]
  | "space" => some [⟨'\t', '\r'⟩, single ' ']
  | "blank" => some [single '\t', single ' ']
  | "punct" => some [⟨'!', '/'⟩, ⟨':', '@'⟩, ⟨'[', '\x60'⟩, ⟨'\x7b', '~'⟩]
  | "cntrl" => some [⟨'\x00', '\x1f'⟩, single '\x7f']
  | "print" => some [⟨' ', '~'⟩]
  | "graph" => some [⟨'!', '~'⟩]
  | _ => none

/-- What words are made of. -/
def word : List Span := [digit, upper, single '_', lower]

def space : List Span := [⟨'\t', '\r'⟩, single ' ']

/-- The same letters, large or small. -/
def otherCase (c : Char) : Char :=
  if upper.has c then Char.ofNat (c.toNat + 32)
  else if lower.has c then Char.ofNat (c.toNat - 32)
  else c

end Span

/-- Whether a byte is in one of the spans. -/
def inSpans (spans : List Span) (c : Char) : Bool := spans.any (·.has c)

end ConnectorSchema.Filter
