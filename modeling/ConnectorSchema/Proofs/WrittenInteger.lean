import Mathlib.Data.List.Induction
import Mathlib.Data.Nat.Digits.Defs
import ConnectorSchema.Proofs.Trimming
import ConnectorSchema.Proofs.WrittenNumber

/-!
Texts for integers. A grammar says which texts write an integer (`Number.Writes`), and the reader
accepts just these, as long as the integer is a word (`Number.readInt64?_eq_some_iff`). Of all the texts
that write it, an integer is shown by the plainest (`Number.isNumeral_repr`).
-/

namespace ConnectorSchema

namespace Number

open Json (IsDigits IsWhole isWhole_toDigits)

/-- The value of decimal digits, each times the power of ten for its place. -/
def placeValue (digits : List Char) : ℕ :=
  Nat.ofDigits 10 (digits.reverse.map fun d => d.toNat - '0'.toNat)

/-- An integer in decimal: one or more digits, and a sign before them at most. -/
inductive Writes : List Char → ℤ → Prop
  | unsigned {digits : List Char} : IsDigits digits → Writes digits (placeValue digits)
  | positive {digits : List Char} : IsDigits digits → Writes ('+' :: digits) (placeValue digits)
  | negative {digits : List Char} : IsDigits digits → Writes ('-' :: digits) (-placeValue digits)

/-- Blanks around it aside, the text is an integer in decimal, and the integer is this word. -/
def HoldsWord (s : String) (k : Int64) : Prop :=
  ∃ text n, Text.Trims s.toList text ∧ Writes text n ∧ -2 ^ 63 ≤ n ∧ n ≤ 2 ^ 63 - 1 ∧ k.toInt = n

theorem ofDigits_eq_placeValue (digits : List Char) : ofDigits digits = placeValue digits := by
  induction digits using List.reverseRecOn with
  | nil => rfl
  | append_singleton digits d ih =>
    rw [ofDigits, List.foldl_append, ← ofDigits, ih, placeValue, placeValue, List.reverse_append]
    simp only [List.foldl_cons, List.foldl_nil, List.reverse_singleton, List.singleton_append,
      List.map_cons, Nat.ofDigits_cons]
    omega

theorem natural?_eq_some_iff {digits : List Char} {n : ℕ} :
    natural? digits = some n ↔ IsDigits digits ∧ placeValue digits = n := by
  rw [natural?, Option.ite_none_right_eq_some, List.all_eq_true, ofDigits_eq_placeValue,
    Option.some_inj]
  rfl

theorem integer?_eq_some_iff {text : List Char} {n : ℤ} : integer? text = some n ↔ Writes text n := by
  constructor
  · intro read
    unfold integer? at read
    split at read <;> obtain ⟨_, number, rfl⟩ := Option.map_eq_some_iff.mp read <;>
      obtain ⟨_, found, same⟩ := Option.bind_eq_some_iff.mp number <;> cases same <;>
      obtain ⟨digits, rfl⟩ := natural?_eq_some_iff.mp found
    · exact .negative digits
    · exact .positive digits
    · exact .unsigned digits
  · intro writes
    cases writes with
    | unsigned digits =>
      rw [integer?_digits digits.2, natural?_eq_some_iff.mpr ⟨digits, rfl⟩]
      rfl
    | positive digits | negative digits =>
      rw [integer?, natural?_eq_some_iff.mpr ⟨digits, rfl⟩]
      rfl

/-- A word is read from the texts that hold it and from no others. -/
theorem readInt64?_eq_some_iff {s : String} {k : Int64} :
    readInt64? s = some k ↔ HoldsWord s k := by
  simp only [readInt64?, Option.bind_eq_some_iff, int64?_eq_some_iff, integer?_eq_some_iff]
  constructor
  · rintro ⟨n, writes, same⟩
    have low := k.le_toInt
    have high := k.toInt_lt
    exact ⟨_, n, Text.trims_trimmed _, writes, by omega, by omega, same⟩
  · rintro ⟨text, n, trims, writes, _, _, same⟩
    rw [Text.trimmed_eq_iff.mpr trims]
    exact ⟨n, writes, same⟩

theorem isBlank_eq_false_of_isDigit {c : Char} (digit : isDigit c = true) :
    Text.isBlank c = false := by
  obtain ⟨low, high⟩ := isDigit_iff.mp digit
  simp only [Text.isBlank, Bool.or_eq_false_iff, Bool.and_eq_false_iff, decide_eq_false_iff_not,
    beq_eq_false_iff_ne]
  omega

/-- The text of a word holds the word. -/
theorem holdsWord_toString (k : Int64) : HoldsWord (toString k.toInt) k := by
  have solid : Text.Solid k.toInt.repr.toList := by
    refine Text.solid_of_forall fun c member => ?_
    rcases digit_or_minus_of_mem_repr member with digit | rfl
    · exact isBlank_eq_false_of_isDigit digit
    · rfl
  have trimmed : Text.trimmed (toString k.toInt).toList = k.toInt.repr.toList := solid.trimmed_eq
  rw [← readInt64?_eq_some_iff, readInt64?, trimmed, integer?_repr]
  exact int64?_toInt k

/-- The numeral of an integer: digits without a zero in front of others, and a minus before them if the
integer is negative. -/
inductive IsNumeral : List Char → ℤ → Prop
  | natural {digits : List Char} : IsWhole digits → IsNumeral digits (placeValue digits)
  | negative {digits : List Char} : IsWhole digits → 0 < placeValue digits →
      IsNumeral ('-' :: digits) (-placeValue digits)

theorem placeValue_toDigits (n : ℕ) : placeValue (Nat.toDigits 10 n) = n := by
  rw [← ofDigits_eq_placeValue, ofDigits_toDigits]

theorem isNumeral_repr (n : ℤ) : IsNumeral n.repr.toList n := by
  rw [toList_repr]
  by_cases natural : 0 ≤ n
  · have numeral := IsNumeral.natural (isWhole_toDigits n.toNat)
    rw [placeValue_toDigits, Int.toNat_of_nonneg natural] at numeral
    rwa [if_pos natural]
  · have numeral := IsNumeral.negative (isWhole_toDigits (-n).toNat)
    rw [placeValue_toDigits, Int.toNat_of_nonneg (by omega), neg_neg] at numeral
    rw [if_neg natural]
    exact numeral (by omega)

end Number

end ConnectorSchema
