import ConnectorSchema.Filter.Pattern.Extent

/-!
Ways through a text one at a time, with what the groups of a pattern hold on them. Of several ways the
first counts: repetitions go on as long as they can, and what is written first is tried first.
-/

namespace ConnectorSchema.Filter

/-- How far a way has come: what lies behind it, what lies ahead, and the groups so far, the latest
in front. -/
structure Course where
  before : Option Char
  passed : Nat
  rest : Octets
  groups : List (Nat × Octets)

namespace Course

/-- Goes on by some bytes. -/
def skip (s : Course) (n : Nat) : Course :=
  if n = 0 then s
  else { s with before := s.rest[n - 1]?, passed := s.passed + n, rest := s.rest.drop n }

/-- Ends a group that began at `start`. -/
def close (s : Course) (number : Nat) (start : Course) : Course :=
  { s with groups := (number, start.rest.take (s.passed - start.passed)) :: s.groups }

def place (s : Course) : Place := ⟨s.before, s.rest.head?⟩

/-- What a group holds, or nothing if no way went through it. -/
def group? (s : Course) (number : Nat) : Option Octets := s.groups.lookup number

end Course

namespace Pattern

/-- Whether two texts are the same but perhaps for the case of letters. -/
def sameText (anyCase : Bool) (a b : Octets) : Bool :=
  a == b || (anyCase && a.map Char.toLower == b.map Char.toLower)

/-- How many bytes at the front of a text pass a test. -/
def runLength (test : ByteTest) (text : Octets) : Nat := (text.takeWhile test.holds).length

/-- Tries `go` with numbers from `n` down. -/
def tryDown (go : Nat → Option Course) : Nat → Option Course
  | 0 => go 0
  | n + 1 =>
    match go (n + 1) with
    | some s => some s
    | none => tryDown go n

/-- Takes a step as often as it leads on, at most as often as a number says. -/
def repeatStep (step : (Course → Option Course) → Course → Option Course)
    (go : Course → Option Course) : Nat → Course → Option Course
  | 0, s => go s
  | n + 1, s =>
    match step (fun t => if t.passed = s.passed then none else repeatStep step go n t) s with
    | some t => some t
    | none => go s

/-- The first way through a pattern with which `go` can go on. -/
def walk : Pattern → (go : Course → Option Course) → Course → Option Course
  | .empty, go, s => go s
  | .one test, go, s => if s.rest.head?.any test.holds then go (s.skip 1) else none
  | .edge e, go, s => if e.holds s.place then go s else none
  | .seq p q, go, s => p.walk (q.walk go) s
  | .either p q, go, s =>
    match p.walk go s with
    | some t => some t
    | none => q.walk go s
  | .many (.one test), go, s => tryDown (fun n => go (s.skip n)) (runLength test s.rest)
  | .many p, go, s => repeatStep p.walk go s.rest.length s
  | .group number p, go, s => p.walk (fun t => go (t.close number s)) s
  | .earlier number anyCase, go, s =>
    match s.group? number with
    | none => none
    | some text =>
      if sameText anyCase text (s.rest.take text.length) then go (s.skip text.length) else none

/-- A way through a pattern that ends after so many bytes. -/
def courseOf? (p : Pattern) (before : Option Char) (text : Octets) (length : Nat) : Option Course :=
  p.walk (fun s => if s.passed = length then some s else none) ⟨before, 0, text, []⟩

/-- The longest way through a pattern from the start of a text. -/
def course? (p : Pattern) (before : Option Char) (text : Octets) : Option Course :=
  if p.looksBack then
    (List.range (text.length + 1)).reverse.findSome? (p.courseOf? before text)
  else (p.longest? before text).bind (p.courseOf? before text)

/-- The first place in a text from which there is a way: how many bytes lie before it, and the way.
The first `skipped` places are left out; `position` bytes have been passed already. -/
def searchFrom? (p : Pattern) : (position skipped : Nat) → (before : Option Char) → Octets →
    Option (Nat × Course)
  | position, 0, before, [] => (p.course? before []).map fun s => (position, s)
  | _, _ + 1, _, [] => none
  | position, 0, before, c :: rest =>
    match p.course? before (c :: rest) with
    | some s => some (position, s)
    | none => searchFrom? p (position + 1) 0 (some c) rest
  | position, skipped + 1, _, c :: rest => searchFrom? p (position + 1) skipped (some c) rest

def search? (p : Pattern) (skipped : Nat) (before : Option Char) (text : Octets) :
    Option (Nat × Course) :=
  p.searchFrom? 0 skipped before text

/-- Whether a pattern holds somewhere in a text. -/
def occursIn (p : Pattern) (text : Octets) : Bool := (p.search? 0 none text).isSome

end Pattern

end ConnectorSchema.Filter
