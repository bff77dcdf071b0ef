/-!
Sets and maps of characters, written as runs of code points. Upper and lower case letters often
alternate, so a run has a step.
-/

namespace ConnectorSchema.Text

/-- The code points `first`, `first + step`, … up to `last`. -/
structure Run where
  first : Nat
  last : Nat
  step : Nat

def Run.contains (run : Run) (n : Nat) : Bool :=
  run.first ≤ n && n ≤ run.last && (n - run.first) % run.step == 0

/-- A run that moves as a whole, its first member to `target`. -/
structure Shift where
  run : Run
  target : Nat

def inRuns (runs : List Run) (c : Char) : Bool :=
  runs.any (·.contains c.toNat)

/-- The character to which the first fitting shift moves `c`. -/
def shifted? (shifts : List Shift) (c : Char) : Option Char :=
  (shifts.find? (·.run.contains c.toNat)).map fun s =>
    Char.ofNat (s.target + (c.toNat - s.run.first))

end ConnectorSchema.Text
