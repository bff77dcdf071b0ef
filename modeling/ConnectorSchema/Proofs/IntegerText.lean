import ConnectorSchema.Number.Integer

/-!
Integers as they are written in decimal: reading the text of an integer gives the integer back, so
different integers have different texts.
-/

namespace ConnectorSchema.Number

theorem isDigit_iff {c : Char} : isDigit c = true ↔ 48 ≤ c.toNat ∧ c.toNat ≤ 57 := by
  simp only [isDigit, Bool.and_eq_true, decide_eq_true_eq, Char.le_def]
  exact Iff.rfl

theorem isDigit_of_mem_toDigits {n : Nat} {c : Char} (member : c ∈ Nat.toDigits 10 n) :
    isDigit c = true := by
  have digit := Nat.isDigit_of_mem_toDigits (by decide) (by decide) member
  simpa [isDigit, Char.isDigit, Char.le_def] using digit

theorem ofDigits_toDigits (n : Nat) : ofDigits (Nat.toDigits 10 n) = n := by
  have same : ∀ (digits : List Char) (start : Nat),
      digits.foldl (fun n d => n * 10 + (d.toNat - '0'.toNat)) start
        = Nat.ofDigitChars 10 digits start := by
    intro digits start
    induction digits generalizing start with
    | nil => rfl
    | cons d rest ih => rw [List.foldl_cons, ih, Nat.ofDigitChars_cons, Nat.mul_comm]
  rw [ofDigits, same, Nat.ofDigitChars_ten_toDigits]

theorem natural?_toDigits (n : Nat) : natural? (Nat.toDigits 10 n) = some n := by
  have digits : (Nat.toDigits 10 n).all isDigit = true :=
    List.all_eq_true.mpr fun _ member => isDigit_of_mem_toDigits member
  rw [natural?, if_pos ⟨Nat.toDigits_ne_nil, digits⟩, ofDigits_toDigits]

/-- Digits alone are read without a sign. -/
theorem integer?_digits {digits : List Char} (all : ∀ c ∈ digits, isDigit c = true) :
    integer? digits = (natural? digits).map fun n => (n : Int) := by
  unfold integer?
  split
  · exact absurd (all _ List.mem_cons_self) (by decide)
  · exact absurd (all _ List.mem_cons_self) (by decide)
  · rfl

theorem toList_repr (n : Int) :
    n.repr.toList
      = if 0 ≤ n then Nat.toDigits 10 n.toNat else '-' :: Nat.toDigits 10 (-n).toNat := by
  rw [Int.repr_eq_if]
  split <;> simp

theorem integer?_repr (n : Int) : integer? n.repr.toList = some n := by
  rw [toList_repr]
  split
  · rename_i nonnegative
    rw [integer?_digits fun _ member => isDigit_of_mem_toDigits member, natural?_toDigits]
    simp [Int.toNat_of_nonneg nonnegative]
  · rename_i negative
    have back : -max (-n) 0 = n := by omega
    simp [integer?, natural?_toDigits, back]

theorem repr_injective {a b : Int} (same : a.repr.toList = b.repr.toList) :
    a = b := by
  have read := integer?_repr a
  rw [same, integer?_repr b] at read
  exact (Option.some.inj read).symm

/-- The text of an integer has digits in it, and a minus at most. -/
theorem digit_or_minus_of_mem_repr {n : Int} {c : Char} (member : c ∈ n.repr.toList) :
    isDigit c = true ∨ c = '-' := by
  rw [toList_repr] at member
  split at member
  · exact Or.inl (isDigit_of_mem_toDigits member)
  · rcases List.mem_cons.mp member with minus | digit
    · exact Or.inr minus
    · exact Or.inl (isDigit_of_mem_toDigits digit)

end ConnectorSchema.Number
