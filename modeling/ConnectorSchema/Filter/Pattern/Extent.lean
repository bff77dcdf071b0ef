import ConnectorSchema.Filter.Pattern.Basic
import ConnectorSchema.Filter.Octets

/-!
How far a pattern holds from the start of a text. All ways through the pattern are followed at once,
and the last place where one of them ends counts.
-/

namespace ConnectorSchema.Filter.Pattern

/-- What may be left of a pattern after a byte, each possibility once. -/
def advance (here : Place) (c : Char) (ways : List Pattern) : List Pattern :=
  (ways.flatMap (following here c)).eraseDups

/-- Follows ways through a text; `best` is the last length at which one of them ended. -/
def followWays :
    (length : Nat) → (before : Option Char) → List Pattern → (best : Option Nat) → Octets → Option Nat
  | length, before, ways, best, text =>
    let here : Place := ⟨before, text.head?⟩
    let best := if ways.any (endsAt here) then some length else best
    match text with
    | [] => best
    | c :: rest =>
      match advance here c ways with
      | [] => best
      | ways => followWays (length + 1) (some c) ways best rest

/-- The length of the longest beginning of a text of which a pattern holds, if it does not look
back. -/
def longest? (p : Pattern) (before : Option Char) (text : Octets) : Option Nat :=
  followWays 0 before [p] none text

end ConnectorSchema.Filter.Pattern
