import ConnectorSchema.Filter.StreamEdit.Script

/-!
Replacing the matches of a pattern in a line.
-/

namespace ConnectorSchema.Filter.StreamEdit

def Casing.change : Casing → Char → Char
  | .upper, c => c.toUpper
  | .lower, c => c.toLower
  | .unchanged, c => c

/-- Letters change as the last command says, and the next one perhaps otherwise. -/
structure Lettering where
  all : Casing
  next? : Option Casing

/-- A text with its letters changed. -/
def Lettering.change (l : Lettering) : Octets → Octets
  | [] => []
  | c :: rest => (l.next?.getD l.all).change c :: rest.map l.all.change

/-- What is put in for a match, `groups` giving the texts of its groups. -/
def fill (groups : Nat → Octets) : Lettering → List Filling → Octets
  | _, [] => []
  | l, part :: rest =>
    let put (text : Octets) : Octets :=
      if text.isEmpty then fill groups l rest
      else l.change text ++ fill groups { l with next? := none } rest
    match part with
    | .text t => put t
    | .group n => put (groups n)
    | .casing c => fill groups ⟨c, none⟩ rest
    | .nextCasing c => fill groups { l with next? := some c } rest

/-- How far the replacing has come. -/
structure Replacing where
  /-- What lies behind, in reverse. -/
  done : Octets
  /-- The number of the match that comes next. -/
  count : Nat
  /-- Whether a match ends here. -/
  afterMatch : Bool
  replaced : Bool

def Replacing.pass (r : Replacing) (text : Octets) : Replacing :=
  { r with done := text.reverse ++ r.done }

/-- Replaces matches in what is left of a line. A match of the empty text does not count right behind
another match. The first argument bounds the number of matches. -/
def replaceMatches (s : Substitution) (p : Pattern) :
    Nat → (before : Option Char) → Replacing → Octets → Replacing
  | 0, _, r, text => r.pass text
  | steps + 1, before, r, text =>
    match p.search? 0 before text with
    | none => r.pass text
    | some (skipped, m) =>
      let passed := text.take skipped
      let whole := (text.drop skipped).take m.passed
      /- Goes on behind the match, and behind an empty one a byte further. -/
      let goOn (r : Replacing) : Replacing :=
        match whole, m.rest with
        | [], [] => r
        | [], c :: rest =>
          replaceMatches s p steps (some c) { r.pass [c] with afterMatch := false } rest
        | _, rest => replaceMatches s p steps m.before { r with afterMatch := true } rest
      let r := r.pass passed
      if whole.isEmpty && passed.isEmpty && r.afterMatch then goOn r
      else if r.count < s.which then goOn { r.pass whole with count := r.count + 1 }
      else
        let groups (n : Nat) : Octets := if n = 0 then whole else (m.group? n).getD []
        let r := { r.pass (fill groups ⟨.unchanged, none⟩ s.filling) with replaced := true }
        if s.every then goOn r else r.pass m.rest

/-- A line with its matches replaced, or nothing if none was. -/
def Substitution.apply? (s : Substitution) (p : Pattern) (text : Octets) : Option Octets :=
  let r := replaceMatches s p (text.length + 2) none ⟨[], 1, false, false⟩ text
  if r.replaced then some r.done.reverse else none

end ConnectorSchema.Filter.StreamEdit
