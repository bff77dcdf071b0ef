import ConnectorSchema.Text.Blank

/-!
Whole numbers of 64 bits: which integers have one, and how one is read from text.
-/

namespace ConnectorSchema.Number

/-- The word that holds `n`, if there is one. -/
def int64? (n : Int) : Option Int64 :=
  if -9223372036854775808 ≤ n ∧ n ≤ 9223372036854775807 then some (Int64.ofInt n) else none

/-- The word nearest to `n`: whatever lies beyond the words becomes the last one on its side. -/
def saturated (n : Int) : Int64 :=
  if n < Int64.minValue.toInt then .minValue
  else if Int64.maxValue.toInt < n then .maxValue
  else Int64.ofInt n

/-- The number that decimal digits write, the first digit highest. -/
def ofDigits (digits : List Char) : Nat :=
  digits.foldl (fun n d => n * 10 + (d.toNat - '0'.toNat)) 0

def isDigit (c : Char) : Bool := '0' ≤ c && c ≤ '9'

/-- The number written by `digits`, which must not be empty and must hold nothing else. -/
def natural? (digits : List Char) : Option Nat :=
  if digits ≠ [] ∧ digits.all isDigit then some (ofDigits digits) else none

/-- An integer with at most one sign before its digits. -/
def integer? : List Char → Option Int
  | '-' :: digits => (natural? digits).map fun n => -(n : Int)
  | '+' :: digits => (natural? digits).map fun n => (n : Int)
  | digits => (natural? digits).map fun n => (n : Int)

/-- Reads a word from a text, blanks around it aside. -/
def readInt64? (s : String) : Option Int64 :=
  (integer? (Text.trimmed s.toList)).bind int64?

theorem toInt_of_int64? {n : Int} {k : Int64} (h : int64? n = some k) : k.toInt = n := by
  unfold int64? at h
  split at h
  · next inRange =>
    rw [← Option.some.inj h]
    exact Int64.toInt_ofInt_of_le (by simpa using inRange.1) (by have := inRange.2; omega)
  · contradiction

theorem int64?_toInt (n : Int64) : int64? n.toInt = some n := by
  have low := n.le_toInt
  have high := n.toInt_lt
  rw [int64?, if_pos ⟨by omega, by omega⟩, Int64.ofInt_toInt]

theorem int64?_eq_some_iff {n : Int} {k : Int64} : int64? n = some k ↔ k.toInt = n :=
  ⟨toInt_of_int64?, fun same => same ▸ int64?_toInt k⟩

end ConnectorSchema.Number
