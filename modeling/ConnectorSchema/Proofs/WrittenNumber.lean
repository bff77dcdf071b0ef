import ConnectorSchema.Proofs.IntegerText
import ConnectorSchema.Proofs.Spelling

/-!
Numbers as they are written. What is written for a number is a number of JSON, and which one is said
by `Number.numeral`. An integer is what its numeral stands for; whether a double is, is a matter of
rounding, and `Double.ReadsBack` says that one of them does.
-/

namespace ConnectorSchema.Number

theorem head?_toDigits_ne_zero {n : Nat} (positive : 0 < n) :
    (Nat.toDigits 10 n).head? ≠ some '0' := by
  induction n using Nat.strongRecOn with
  | ind n ih =>
    by_cases small : n < 10
    · have digits : ∀ k < 10, 0 < k → k.digitChar ≠ '0' := by decide
      rw [Nat.toDigits_of_lt_base small]
      exact fun zero => digits n small positive (Option.some.inj zero)
    · have before := ih (n / 10) (by omega) (by omega)
      obtain ⟨d, rest, digits⟩ := List.exists_cons_of_ne_nil (Nat.toDigits_ne_nil (n := n / 10) (b := 10))
      rw [Nat.toDigits_of_base_le (by decide) (by omega), digits]
      rwa [digits] at before

namespace Decimal

theorem Interval.low_pos {d : Double} (nonzero : d.isZero = false) : 0 < (ofDouble d).low := by
  have mantissa : d.mantissa ≠ 0 := by simpa [Double.isZero] using nonzero
  refine Nat.mul_pos ?_ (Nat.pow_pos (by decide))
  split <;> omega

theorem Interval.pos_of_contains {i : Interval} (low : 0 < i.low) {n : Nat}
    (inside : i.contains n = true) : 0 < n := by
  refine Nat.pos_of_ne_zero fun zero => ?_
  rw [zero] at inside
  cases closed : i.closed with
  | false => simp [contains, closed] at inside
  | true =>
    simp only [contains, closed, if_true, Bool.and_eq_true, decide_eq_true_eq] at inside
    omega

theorem Interval.contains_of_nearest {i : Interval} {tie : Tie} {n : Nat}
    (found : i.nearest? tie = some n) : i.contains n = true := by
  unfold nearest? at found
  simp only at found
  split at found
  · contradiction
  · rename_i below _
    rw [← Option.some.inj found, below]
  · rename_i above
    rw [← Option.some.inj found, above]
  · rename_i below above
    split at found
    · rw [← Option.some.inj found, below]
    · split at found
      · rw [← Option.some.inj found, above]
      · split at found
        · rw [← Option.some.inj found, below]
        · rw [← Option.some.inj found, above]

theorem digits_pos_of_search {i : Interval} (low : 0 < i.low) {tie : Tie} {top : Int}
    {count fuel : Nat} {r : Decimal} (found : search i tie top count fuel = some r) :
    0 < r.digits := by
  induction fuel generalizing count with
  | zero => contradiction
  | succ fuel ih =>
    unfold search at found
    simp only at found
    split at found
    · rename_i n nearest
      rw [← Option.some.inj found]
      refine Interval.pos_of_contains ?_ (Interval.contains_of_nearest nearest)
      exact Nat.mul_pos low (Nat.pow_pos (by decide))
    · exact ih found

theorem digits_pos_strip {fuel : Nat} {r : Decimal} (positive : 0 < r.digits) :
    0 < (strip fuel r).digits := by
  induction fuel generalizing r with
  | zero => exact positive
  | succ fuel ih =>
    unfold strip
    split
    · rename_i tens
      exact ih (show 0 < r.digits / 10 by omega)
    · exact positive

/-- A decimal without digits is the number zero and not some power of ten of it. -/
theorem digits_pos_shortest (tie : Tie) {d : Double} (nonzero : d.isZero = false) :
    0 < (shortest tie d).digits ∨ shortest tie d = ⟨0, 0⟩ := by
  unfold shortest
  simp only [nonzero, Bool.false_eq_true, if_false]
  split
  · rename_i r found
    exact Or.inl (digits_pos_strip (digits_pos_of_search (Interval.low_pos nonzero) found))
  · exact Or.inr rfl

end Decimal

end ConnectorSchema.Number

namespace ConnectorSchema.Json

open ConnectorSchema.Number

theorem isDigits_toDigits (n : Nat) : IsDigits (Nat.toDigits 10 n) :=
  ⟨Nat.toDigits_ne_nil, fun _ member => isDigit_of_mem_toDigits member⟩

theorem isWhole_toDigits (n : Nat) : IsWhole (Nat.toDigits 10 n) := by
  rcases Nat.eq_zero_or_pos n with rfl | positive
  · exact Or.inl (by decide)
  · exact Or.inr ⟨isDigits_toDigits n, head?_toDigits_ne_zero positive⟩

namespace Numeral

/-! ## Integers -/

def ofInt (n : Int) : Numeral := ⟨decide (n < 0), Nat.toDigits 10 n.natAbs, [], none⟩

theorem ofInt_speltBy (n : Int) : (ofInt n).SpeltBy (toString n).toList := by
  refine ⟨isWhole_toDigits _, [], [], .absent, .absent, ?_⟩
  change n.repr.toList = _
  rw [toList_repr]
  by_cases nonnegative : 0 ≤ n
  · have same : n.toNat = n.natAbs := by omega
    have plus : ¬ n < 0 := by omega
    simp [ofInt, nonnegative, same, plus]
  · have same : (-n).toNat = n.natAbs := by omega
    have minus : n < 0 := by omega
    simp [ofInt, nonnegative, minus, same]

theorem le_foldl_digits (digits : List Char) (n : Nat) :
    n ≤ digits.foldl (fun n d => n * 10 + (d.toNat - '0'.toNat)) n := by
  induction digits generalizing n with
  | nil => exact Nat.le_refl n
  | cons d rest ih =>
    have next := ih (n * 10 + (d.toNat - '0'.toNat))
    rw [List.foldl_cons]
    omega

/-- Digits of a number that fits a word are all taken. -/
theorem accumulate_of_le {digits : List Char} {n : Nat}
    (fits : digits.foldl (fun n d => n * 10 + (d.toNat - '0'.toNat)) n ≤ 18446744073709551615) :
    accumulate n digits = (digits.foldl (fun n d => n * 10 + (d.toNat - '0'.toNat)) n, []) := by
  induction digits generalizing n with
  | nil => rfl
  | cons d rest ih =>
    rw [List.foldl_cons] at fits ⊢
    have next := Nat.le_trans (le_foldl_digits rest _) fits
    rw [accumulate]
    simp only [next, if_true]
    exact ih fits

/-- The digits of an integer that fits a word are its value, and no power of ten remains. -/
theorem significand_of_integer {n : Numeral} (unpointed : n.fraction = []) (plain : n.exponent = none)
    (fits : ofDigits n.whole ≤ 18446744073709551615) : n.significand = (ofDigits n.whole, 0) := by
  have taken : accumulate 0 n.whole = (ofDigits n.whole, []) := accumulate_of_le fits
  simp [significand, unpointed, plain, taken, accumulate]

theorem significand_ofInt {n : Int} (fits : n.natAbs ≤ 18446744073709551615) :
    (ofInt n).significand = (n.natAbs, 0) := by
  have value : ofDigits (ofInt n).whole = n.natAbs := ofDigits_toDigits n.natAbs
  rw [significand_of_integer rfl rfl (by rw [value]; exact fits), value]

theorem value_ofInt (n : Int) (inRange : -9223372036854775808 ≤ n ∧ n ≤ 18446744073709551615) :
    (ofInt n).value = .ok (.integer n inRange) := by
  have minus : (ofInt n).negative = true ↔ n < 0 := by simp [ofInt]
  have same : (if (ofInt n).negative = true then -(n.natAbs : Int) else n.natAbs) = n := by
    simp only [minus]
    split <;> omega
  unfold value
  rw [significand_ofInt (by omega)]
  simp only
  split
  · simp only [same]
  · rename_i inexact
    refine absurd ⟨rfl, rfl, trivial, by omega, fun negative => ?_⟩ inexact
    have negative := minus.mp negative
    omega

/-! ## Doubles -/

/-- The numeral for digits of which `point` stand before the point, laid out as a double is. -/
def laidOut (negative : Bool) (digits : List Char) (point : Int) : Numeral :=
  if -4 ≤ point ∧ point ≤ 16 then
    if point ≤ 0 then ⟨negative, ['0'], zeros (-point).toNat ++ digits, none⟩
    else if point < digits.length then
      ⟨negative, digits.take point.toNat, digits.drop point.toNat, none⟩
    else ⟨negative, digits ++ zeros (point.toNat - digits.length), ['0'], none⟩
  else
    ⟨negative, digits.take 1, digits.drop 1,
      some (decide (point - 1 < 0), Nat.toDigits 10 (point - 1).natAbs)⟩

def ofDouble (d : Double) : Numeral :=
  if d.isZero then ⟨d.negative, ['0'], ['0'], none⟩
  else
    let decimal := Decimal.shortest .even d
    let digits := Nat.toDigits 10 decimal.digits
    laidOut d.negative digits (decimal.exponent + digits.length)

theorem isDigits_zeros_append {digits : List Char} (all : IsDigits digits) (n : Nat) :
    IsDigits (zeros n ++ digits) := by
  refine ⟨by simp [all.1], fun d member => ?_⟩
  rcases List.mem_append.mp member with zero | inDigits
  · rw [List.eq_of_mem_replicate zero]
    decide
  · exact all.2 d inDigits

/-- Digits without a zero in front, with some more behind them. -/
theorem isWhole_append {digits more : List Char} (all : IsDigits digits)
    (leading : digits.head? ≠ some '0') (rest : ∀ d ∈ more, isDigit d = true) :
    IsWhole (digits ++ more) := by
  obtain ⟨some, each⟩ := all
  cases digits with
  | nil => contradiction
  | cons d others =>
    refine Or.inr ⟨⟨List.cons_ne_nil _ _, fun c member => ?_⟩, leading⟩
    rcases List.mem_append.mp member with inDigits | inMore
    · exact each c inDigits
    · exact rest c inMore

theorem isWhole_take {digits : List Char} (all : IsDigits digits)
    (leading : digits.head? ≠ some '0') {n : Nat} (positive : 0 < n) : IsWhole (digits.take n) := by
  obtain ⟨some, each⟩ := all
  obtain ⟨k, rfl⟩ : ∃ k, n = k + 1 := ⟨n - 1, by omega⟩
  cases digits with
  | nil => contradiction
  | cons d others =>
    exact Or.inr ⟨⟨List.cons_ne_nil _ _, fun c member => each c (List.mem_of_mem_take member)⟩,
      leading⟩

/-- What a double's digits look like once they are laid out. -/
theorem laidOut_speltBy (negative : Bool) {digits : List Char} (all : IsDigits digits)
    {point : Int} (leading : digits.head? ≠ some '0' ∨ digits = ['0'] ∧ point = 1) :
    (laidOut negative digits point).SpeltBy ((if negative then ['-'] else [])
      ++ if -4 ≤ point ∧ point ≤ 16 then positionalDigits true digits point
        else exponentDigits digits point) := by
  unfold laidOut
  split
  · unfold positionalDigits
    split
    · refine ⟨Or.inl rfl, _, [], .digits (isDigits_zeros_append all _), .absent, ?_⟩
      simp
    · rename_i positive
      have positive : 0 < point := by omega
      split
      · rename_i inside
        have leading : digits.head? ≠ some '0' := by
          rcases leading with leading | ⟨rfl, rfl⟩
          · exact leading
          · simp at inside
        have behind : IsDigits (digits.drop point.toNat) := by
          refine ⟨fun none => ?_, fun c member => all.2 c (List.mem_of_mem_drop member)⟩
          have := List.drop_eq_nil_iff.mp none
          omega
        refine ⟨isWhole_take all leading (by omega), _, [], .digits behind, .absent, ?_⟩
        simp
      · have whole : IsWhole (digits ++ zeros (point.toNat - digits.length)) := by
          rcases leading with leading | ⟨rfl, rfl⟩
          · refine isWhole_append all leading fun c member => ?_
            rw [List.eq_of_mem_replicate member]
            decide
          · exact Or.inl rfl
        refine ⟨whole, _, [], .digits isDigits_zero, .absent, ?_⟩
        simp
  · rename_i far
    have leading : digits.head? ≠ some '0' := by
      rcases leading with leading | ⟨rfl, rfl⟩
      · exact leading
      · exact absurd ⟨by decide, by decide⟩ far
    have power := isDigits_toDigits (point - 1).natAbs
    have whole := isWhole_take all leading (n := 1) (by decide)
    have spelt : ExponentSpelt (some (decide (point - 1 < 0), Nat.toDigits 10 (point - 1).natAbs))
        ('e' :: (if point - 1 < 0 then '-' else '+') :: Nat.toDigits 10 (point - 1).natAbs) := by
      by_cases below : point - 1 < 0
      · simpa [below] using ExponentSpelt.negative (Or.inl rfl) power
      · simpa [below] using ExponentSpelt.positive (Or.inl rfl) power
    cases digits with
    | nil => exact absurd rfl all.1
    | cons d others =>
      cases others with
      | nil =>
        refine ⟨whole, [], _, .absent, spelt, ?_⟩
        simp [exponentDigits]
      | cons second rest =>
        have behind : IsDigits (second :: rest) :=
          ⟨List.cons_ne_nil _ _, fun c member => all.2 c (List.mem_cons_of_mem _ member)⟩
        refine ⟨whole, _, _, .digits behind, spelt, ?_⟩
        simp [exponentDigits]

/-- What is written for a double is a number of JSON. -/
theorem ofDouble_speltBy (d : Double) : (ofDouble d).SpeltBy d.jsonText.toList := by
  have text : d.jsonText.toList
      = (if d.negative then ['-'] else []) ++ DoubleFormat.json.digits d := by
    rw [Double.jsonText, String.toList_ofList, DoubleFormat.write]
    split <;> rfl
  rw [text, ofDouble, DoubleFormat.digits]
  cases zero : d.isZero with
  | true =>
    refine ⟨Or.inl rfl, _, [], .digits isDigits_zero, .absent, ?_⟩
    simp [DoubleFormat.json]
  | false =>
    have leading := Decimal.digits_pos_shortest .even zero
    simp only [Bool.false_eq_true, if_false, DoubleFormat.json]
    refine laidOut_speltBy d.negative (isDigits_toDigits _) ?_
    rcases leading with positive | none
    · exact Or.inl (head?_toDigits_ne_zero positive)
    · rw [none]
      exact Or.inr ⟨by decide, by decide⟩

end Numeral

end ConnectorSchema.Json
