import Mathlib.Algebra.Order.Ring.Cast
import Mathlib.Algebra.Order.Ring.Rat
import Mathlib.Data.Int.Cast.Field
import Mathlib.Data.Nat.Cast.Field
import Mathlib.Tactic.NormNum
import Mathlib.Tactic.Positivity
import ConnectorSchema.Document.Input

/-!
Doubles as integers. A double is a rational number, and its conversion gives the word with the same
value, if there is one. The test for the range is made among doubles, where the largest word is
rounded up: so `2 ^ 63` passes for a word as well, and the largest word is given for it
(`Input.integer_of_double`).
-/

namespace ConnectorSchema

namespace Number.Double

/-- The rational number that a double is. -/
def value (d : Double) : ℚ := (if d.negative then -1 else 1) * (d.mantissa * (2 : ℚ) ^ d.exponent)

theorem zpow_eq_div (e : ℤ) :
    (2 : ℚ) ^ e = (Nat.pow 2 e.toNat : ℕ) / (Nat.pow 2 (-e).toNat : ℕ) := by
  have split := Int.toNat_sub_toNat_neg e
  conv_lhs => rw [← split, zpow_sub₀ two_ne_zero, zpow_natCast, zpow_natCast]
  simp

theorem value_eq_ratio (d : Double) :
    d.value = (if d.negative then -1 else 1) * ((d.ratio.1 : ℚ) / d.ratio.2) := by
  rw [value, zpow_eq_div, ratio, Nat.cast_mul, mul_div_assoc]

theorem value_eq_numerator (d : Double) : d.value = d.numerator / d.ratio.2 := by
  rw [value_eq_ratio, numerator]
  split <;> simp [neg_div]

theorem ratio_pos (d : Double) : 0 < d.ratio.2 := Nat.pow_pos two_pos

theorem div_eq_intCast_iff {a b : ℕ} (pos : 0 < b) {n : ℤ} :
    (a : ℚ) / b = n ↔ a % b = 0 ∧ n = (a / b : ℕ) := by
  have positive : (b : ℚ) ≠ 0 := by positivity
  constructor
  · intro same
    have product : (a : ℤ) = n * b := by exact_mod_cast (div_eq_iff positive).mp same
    have divides : b ∣ a := Int.natCast_dvd_natCast.mp ⟨n, by rw [product, mul_comm]⟩
    refine ⟨Nat.mod_eq_zero_of_dvd divides, ?_⟩
    rw [Int.natCast_div, product, Int.mul_ediv_cancel _ (by omega)]
  · rintro ⟨divides, rfl⟩
    rw [Int.cast_natCast, Nat.cast_div_charZero (Nat.dvd_of_mod_eq_zero divides)]

theorem toInt?_eq (d : Double) :
    d.toInt? = if d.ratio.1 % d.ratio.2 = 0 then
        some (if d.negative then -((d.ratio.1 / d.ratio.2 : ℕ) : ℤ)
          else (d.ratio.1 / d.ratio.2 : ℕ))
      else none := rfl

theorem toInt?_eq_some_iff {d : Double} {n : ℤ} : d.toInt? = some n ↔ d.value = n := by
  have pos := d.ratio_pos
  rw [value_eq_ratio, toInt?_eq, Option.ite_none_right_eq_some, Option.some_inj]
  cases d.negative with
  | false =>
    rw [if_neg Bool.false_ne_true, if_neg Bool.false_ne_true, one_mul, div_eq_intCast_iff pos,
      eq_comm (a := n)]
  | true =>
    have flipped : (-1 : ℚ) * (d.ratio.1 / d.ratio.2) = n
        ↔ (d.ratio.1 : ℚ) / d.ratio.2 = (-n : ℤ) := by
      rw [Int.cast_neg, neg_one_mul, neg_eq_iff_eq_neg]
    rw [if_pos rfl, if_pos rfl, flipped, div_eq_intCast_iff pos, neg_eq_iff_eq_neg,
      eq_comm (a := -n)]

/-- The range that passes for the range of the words. It has one integer too many. -/
def InRange (n : ℤ) : Prop := -2 ^ 63 ≤ n ∧ n ≤ 2 ^ 63

/-- A word stands for a double with the same value, and the largest word for `2 ^ 63` too. -/
def StandsFor (d : Double) (k : Int64) : Prop :=
  d.value = k.toInt ∨ d.value = 2 ^ 63 ∧ k = .maxValue

/-- Doubles are compared by the numbers that they are. -/
theorem le_iff {a b : Double} : a.le b ↔ a.value ≤ b.value := by
  have posA : (0 : ℚ) < a.ratio.2 := by exact_mod_cast a.ratio_pos
  have posB : (0 : ℚ) < b.ratio.2 := by exact_mod_cast b.ratio_pos
  rw [le, decide_eq_true_eq, value_eq_numerator, value_eq_numerator, div_le_div_iff₀ posA posB]
  exact_mod_cast Iff.rfl

/-- The limits of the words as doubles. The upper one is rounded up, so it is no word. -/
theorem exists_limits : ∃ least greatest, ofInt? Int64.minValue.toInt = some least
    ∧ ofInt? Int64.maxValue.toInt = some greatest ∧ least.value = -2 ^ 63
    ∧ greatest.value = 2 ^ 63 := by
  refine ⟨⟨true, 4503599627370496, 11, by decide⟩, ⟨false, 4503599627370496, 11, by decide⟩,
    by decide +kernel, by decide +kernel, ?_, ?_⟩
  · norm_num [value]
  · norm_num [value]

/-- In the range an integer becomes its own word, but for the one that has none. -/
theorem saturated_eq_iff {n : ℤ} {k : Int64} (inRange : InRange n) :
    saturated n = k ↔ k.toInt = n ∨ n = 2 ^ 63 ∧ k = .maxValue := by
  obtain ⟨low, high⟩ := inRange
  have least : Int64.minValue.toInt = -2 ^ 63 := Int64.toInt_minValue
  have greatest : Int64.maxValue.toInt = 2 ^ 63 - 1 := Int64.toInt_maxValue
  have inside := k.toInt_lt
  rw [saturated, if_neg (by omega)]
  by_cases above : Int64.maxValue.toInt < n
  · have atEnd : n = 2 ^ 63 := by omega
    rw [if_pos above, atEnd]
    exact ⟨fun same => Or.inr ⟨rfl, same.symm⟩,
      fun same => same.elim (fun word => absurd word (by omega)) fun last => last.2.symm⟩
  · rw [if_neg above, ← Int64.toInt_inj, Int64.toInt_ofInt_of_le (by omega) (by omega)]
    exact ⟨fun same => Or.inl same.symm,
      fun same => same.elim Eq.symm fun last => absurd last.1 (by omega)⟩

theorem toInt64?_eq_some_iff_saturated {d : Double} {k : Int64} :
    d.toInt64? = some k ↔ ∃ n : ℤ, d.value = n ∧ InRange n ∧ saturated n = k := by
  obtain ⟨least, greatest, isLeast, isGreatest, low, high⟩ := exists_limits
  simp only [toInt64?, isLeast, isGreatest, Option.bind_eq_bind, Option.bind_some,
    Option.bind_eq_some_iff, Option.ite_none_right_eq_some, Option.some_inj, Bool.and_eq_true,
    toInt?_eq_some_iff, le_iff, low, high]
  refine exists_congr fun n => and_congr_right fun same => and_congr_left fun _ => ?_
  rw [same, InRange]
  exact_mod_cast Iff.rfl

theorem toInt64?_eq_some_iff {d : Double} {k : Int64} : d.toInt64? = some k ↔ d.StandsFor k := by
  rw [toInt64?_eq_some_iff_saturated]
  constructor
  · rintro ⟨n, same, inRange, word⟩
    rcases (saturated_eq_iff inRange).mp word with rfl | ⟨rfl, last⟩
    · exact Or.inl same
    · exact Or.inr ⟨by exact_mod_cast same, last⟩
  · rintro (same | ⟨same, rfl⟩)
    · have inRange : InRange k.toInt := ⟨k.le_toInt, k.toInt_lt.le⟩
      exact ⟨k.toInt, same, inRange, (saturated_eq_iff inRange).mpr (Or.inl rfl)⟩
    · have inRange : InRange (2 ^ 63) := ⟨by norm_num, le_rfl⟩
      exact ⟨2 ^ 63, by exact_mod_cast same, inRange, (saturated_eq_iff inRange).mpr (Or.inr ⟨rfl, rfl⟩)⟩

/-- A double that passes for a word: it has no fraction and lies in the range. -/
def PassesForWord (d : Double) : Prop := ∃ n : ℤ, d.value = n ∧ InRange n

theorem isSome_toInt64?_iff {d : Double} : d.toInt64?.isSome ↔ d.PassesForWord := by
  rw [Option.isSome_iff_exists]
  constructor
  · rintro ⟨k, found⟩
    obtain ⟨n, same, inRange, _⟩ := toInt64?_eq_some_iff_saturated.mp found
    exact ⟨n, same, inRange⟩
  · rintro ⟨n, same, inRange⟩
    exact ⟨_, toInt64?_eq_some_iff_saturated.mpr ⟨n, same, inRange, rfl⟩⟩

theorem toInt64?_eq_none_iff {d : Double} :
    d.toInt64? = none ↔ ∀ n : ℤ, d.value = n → ¬ InRange n := by
  rw [← Option.not_isSome_iff_eq_none, isSome_toInt64?_iff, PassesForWord]
  simp

end Number.Double

open Number

/-- What an accessor answers about a double: the word that stands for it, or that it is no integer
in the range. -/
structure ReadsDouble {α : Type} (word : Int64 → α) (subject : Subject) (d : Double)
    (answer : Except Conversion α) : Prop where
  ok_iff : ∀ a, answer = .ok a ↔ ∃ k, d.StandsFor k ∧ word k = a
  error_iff : ∀ c, answer = .error c ↔ (∀ n : ℤ, d.value = n → ¬ Double.InRange n)
    ∧ c = ⟨subject, .integer⟩

theorem readsDouble_of_eq {α : Type} {word : Int64 → α} {subject : Subject} {d : Double}
    {answer : Except Conversion α}
    (converts : answer = d.toInt64?.elim (.error ⟨subject, .integer⟩) fun k => .ok (word k)) :
    ReadsDouble word subject d answer := by
  simp only [converts]
  constructor
  · intro a
    simp only [← Double.toInt64?_eq_some_iff]
    cases d.toInt64? <;> simp
  · intro c
    rw [← Double.toInt64?_eq_none_iff]
    cases d.toInt64? <;> simp [eq_comm]

theorem Input.readsDouble_bound (name : String) (absent : Int64) (d : Double) :
    ReadsDouble id (.bound name d) d (bound name absent (some d)) := by
  refine readsDouble_of_eq ?_
  rw [bound]
  cases d.toInt64? <;> rfl

/-- The integer accessors of an input, by the rational number that a double in it is. -/
theorem Input.integer_of_double (i : Input) (d : Double) :
    (i.defaultValue = some (.double d) →
      ReadsDouble some (.literal (.double d)) d i.defaultInt64?)
    ∧ (i.min = some d → ReadsDouble id (.bound "min" d) d i.sliderMin)
    ∧ (i.max = some d → ReadsDouble id (.bound "max" d) d i.sliderMax)
    ∧ (i.step = some d → ReadsDouble id (.bound "step" d) d i.sliderStep) := by
  refine ⟨fun given => ?_, fun given => ?_, fun given => ?_, fun given => ?_⟩
  · refine readsDouble_of_eq ?_
    rw [defaultInt64?, given, Literal.convert, Literal.int64?]
    cases d.toInt64? <;> rfl
  · rw [sliderMin, given]
    exact readsDouble_bound "min" 0 d
  · rw [sliderMax, given]
    exact readsDouble_bound "max" 0 d
  · rw [sliderStep, given]
    exact readsDouble_bound "step" 1 d

/-- The least word is a double, but no word stands for one half. -/
theorem Input.integer_of_double_slider :
    let least : Double := ⟨true, 4503599627370496, 11, by decide⟩
    let three : Double := ⟨false, 6755399441055744, -51, by decide⟩
    let half : Double := ⟨false, 4503599627370496, -53, by decide⟩
    let slider : Input := { Input.ofControl .slider with
      defaultValue := some (.double three), min := some least, max := some three,
      step := some half }
    slider.defaultInt64? = .ok (some 3) ∧ slider.sliderMin = .ok .minValue
      ∧ slider.sliderMax = .ok 3 ∧ slider.sliderStep = .error ⟨.bound "step" half, .integer⟩ := by
  intro least three half slider
  have isLeast : least.StandsFor .minValue := by
    refine Or.inl ?_
    rw [Int64.toInt_minValue]
    norm_num [least, Double.value]
  have isThree : three.StandsFor 3 := by
    refine Or.inl ?_
    have word : (3 : Int64).toInt = 3 := rfl
    rw [word]
    norm_num [three, Double.value]
  have isBroken : ∀ n : ℤ, half.value = n → ¬ Double.InRange n := by
    intro n same
    have value : half.value = 1 / 2 := by norm_num [half, Double.value]
    have doubled : (1 : ℚ) = 2 * n := by
      rw [← same, value]
      norm_num
    have odd : (1 : ℤ) = 2 * n := by exact_mod_cast doubled
    omega
  have default := (slider.integer_of_double three).1 rfl
  have min := (slider.integer_of_double least).2.1 rfl
  have max := (slider.integer_of_double three).2.2.1 rfl
  have step := (slider.integer_of_double half).2.2.2 rfl
  exact ⟨(default.ok_iff _).mpr ⟨3, isThree, rfl⟩, (min.ok_iff _).mpr ⟨_, isLeast, rfl⟩,
    (max.ok_iff _).mpr ⟨3, isThree, rfl⟩, (step.error_iff _).mpr ⟨isBroken, rfl⟩⟩

/-- The integer behind the largest word is read as the largest word. -/
theorem Input.largest_word_for_next :
    let next : Double := ⟨false, 4503599627370496, 11, by decide⟩
    let slider : Input := { Input.ofControl .slider with
      defaultValue := some (.double next), min := some next, max := some next, step := some next }
    next.value = 2 ^ 63 ∧ (Int64.maxValue.toInt : ℚ) = 2 ^ 63 - 1
      ∧ slider.defaultInt64? = .ok (some .maxValue) ∧ slider.sliderMin = .ok .maxValue
      ∧ slider.sliderMax = .ok .maxValue ∧ slider.sliderStep = .ok .maxValue := by
  intro next slider
  have value : next.value = 2 ^ 63 := by norm_num [next, Double.value]
  have standsFor : next.StandsFor .maxValue := Or.inr ⟨value, rfl⟩
  have converted : next.toInt64? = some .maxValue := Double.toInt64?_eq_some_iff.mpr standsFor
  have bounded (name : String) (absent : Int64) :
      Input.bound name absent (some next) = .ok .maxValue :=
    ((Input.readsDouble_bound name absent next).ok_iff _).mpr ⟨_, standsFor, rfl⟩
  refine ⟨value, ?_, ?_, bounded "min" 0, bounded "max" 0, bounded "step" 1⟩
  · rw [Int64.toInt_maxValue]
    norm_num
  · simp only [Input.defaultInt64?, slider, Literal.convert, Literal.int64?, converted]

end ConnectorSchema
