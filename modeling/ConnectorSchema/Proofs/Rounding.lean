import Mathlib.Algebra.Order.Field.Power
import Mathlib.Tactic.GCongr
import Mathlib.Tactic.Linarith
import Mathlib.Tactic.Ring
import ConnectorSchema.Proofs.DoubleValue

/-!
Rounding to a double. What `ofRatio?` gives for a fraction is the double nearest to it
(`isNearest_of_ofRatio?`), and it gives one for each fraction below `2 ^ 1023` (`exists_ofRatio?`). An
integer keeps its value when some double has that value, and is rounded to another integer otherwise.
-/

namespace ConnectorSchema.Number.Double

/-- No double is nearer to `x` than `d`, and where another one is as near the mantissa of `d` is
even. -/
def IsNearest (x : ℚ) (d : Double) : Prop :=
  ∀ e : Double, |x - d.value| ≤ |x - e.value|
    ∧ (e.value ≠ d.value → |x - d.value| = |x - e.value| → d.mantissa % 2 = 0)

theorem IsNearest.eq_of_value {x : ℚ} {d e : Double} (nearest : d.IsNearest x) (exact : e.value = x) :
    d.value = x := by
  have near := (nearest e).1
  rw [exact, sub_self, abs_zero, abs_nonpos_iff, sub_eq_zero] at near
  exact near.symm

/-! ## The sign -/

theorem value_negate (d : Double) : d.negate.value = -d.value := by
  unfold value negate
  cases d.negative <;> simp

theorem IsNearest.negate {x : ℚ} {d : Double} (nearest : d.IsNearest x) : d.negate.IsNearest (-x) := by
  intro e
  have flip (y : ℚ) : |-x - y| = |x - -y| := by rw [← abs_neg, neg_sub, sub_neg_eq_add, sub_neg_eq_add, add_comm]
  have near := nearest e.negate
  rw [value_negate] at near ⊢
  rw [flip, flip, neg_neg]
  refine ⟨near.1, fun other same => near.2 (fun equal => other ?_) same⟩
  rw [← equal, neg_neg]

/-! ## The nearest integer -/

theorem roundHalfEven_near {a b : ℕ} (pos : 0 < b) :
    |(a : ℚ) / b - roundHalfEven a b| ≤ 1 / 2
      ∧ (|(a : ℚ) / b - roundHalfEven a b| = 1 / 2 → roundHalfEven a b % 2 = 0) := by
  have positive : (0 : ℚ) < b := by exact_mod_cast pos
  have whole : (a : ℚ) = b * (a / b : ℕ) + (a % b : ℕ) := by exact_mod_cast (Nat.div_add_mod a b).symm
  have split : (a : ℚ) / b = (a / b : ℕ) + ((a % b : ℕ) : ℚ) / b := by
    rw [eq_comm, add_div' _ _ _ positive.ne', mul_comm, ← whole]
  have less : ((a % b : ℕ) : ℚ) / b < 1 := (div_lt_one positive).mpr (by exact_mod_cast Nat.mod_lt a pos)
  have atLeast : 0 ≤ ((a % b : ℕ) : ℚ) / b := by positivity
  have halfway : ((a % b : ℕ) : ℚ) / b = 1 / 2 ↔ 2 * (a % b) = b := by
    rw [div_eq_div_iff positive.ne' two_ne_zero, one_mul, mul_comm]
    exact_mod_cast Iff.rfl
  have beyond : 1 / 2 < ((a % b : ℕ) : ℚ) / b ↔ b < 2 * (a % b) := by
    rw [div_lt_div_iff₀ two_pos positive, one_mul, mul_comm _ (2 : ℚ)]
    exact_mod_cast Iff.rfl
  rw [split]
  unfold roundHalfEven
  simp only
  split
  · rename_i up
    have distance : ((a / b : ℕ) : ℚ) + ((a % b : ℕ) : ℚ) / b - ((a / b + 1 : ℕ) : ℚ)
        = -(1 - ((a % b : ℕ) : ℚ) / b) := by
      push_cast
      ring
    rw [distance, abs_neg, abs_of_pos (by linarith)]
    rcases up with far | ⟨tie, odd⟩
    · have far := beyond.mpr far
      exact ⟨by linarith, fun same => by linarith⟩
    · have tie := halfway.mpr tie
      exact ⟨by linarith, fun _ => by omega⟩
  · rename_i down
    obtain ⟨near, even⟩ := not_or.mp down
    have near := not_lt.mp (mt beyond.mp near)
    rw [add_sub_cancel_left, abs_of_nonneg atLeast]
    refine ⟨near, fun same => ?_⟩
    have notOdd : ¬ a / b % 2 = 1 := fun odd => even ⟨halfway.mp same, odd⟩
    omega

/-- Nothing is nearer than an integer at most one half away, and only at one half is another one as
near. -/
theorem nearest_int {y : ℚ} {r j : ℤ} (near : |y - r| ≤ 1 / 2) :
    |y - r| ≤ |y - j| ∧ (j ≠ r → |y - r| = |y - j| → |y - r| = 1 / 2) := by
  by_cases same : j = r
  · subst same
    exact ⟨le_rfl, fun other => absurd rfl other⟩
  have apart : (1 : ℚ) ≤ |(j : ℚ) - r| := by exact_mod_cast Int.one_le_abs (sub_ne_zero.mpr same)
  have detour : |(j : ℚ) - r| ≤ |y - j| + |y - r| := by
    rw [abs_sub_comm y j]
    exact abs_sub_le _ _ _
  exact ⟨by linarith, fun _ tie => by linarith⟩

/-! ## The exponent -/

theorem scaled_ratio (n d : ℕ) (e : ℤ) :
    ((scaled n d e).1 : ℚ) / (scaled n d e).2 = n / d / 2 ^ e := by
  rw [zpow_eq_div, scaled, Nat.cast_mul, Nat.cast_mul, mul_div_mul_comm, div_div_eq_mul_div,
    mul_div_assoc]

theorem scaled_pos {d : ℕ} (pos : 0 < d) (n : ℕ) (e : ℤ) : 0 < (scaled n d e).2 :=
  Nat.mul_pos pos (Nat.pow_pos two_pos)

/-- A fraction lies between neighbouring powers of two of the difference of logarithms. -/
theorem ratio_bounds {n d : ℕ} (num : 0 < n) (den : 0 < d) :
    (2 : ℚ) ^ ((n.log2 : ℤ) - d.log2 - 1) < n / d
      ∧ (n : ℚ) / d < 2 ^ ((n.log2 : ℤ) - d.log2 + 1) := by
  have positive : (0 : ℚ) < d := by exact_mod_cast den
  have power (k : ℕ) : ((2 ^ k : ℕ) : ℚ) = 2 ^ (k : ℤ) := by push_cast; rw [zpow_natCast]
  have numLow : (2 : ℚ) ^ (n.log2 : ℤ) ≤ n := by
    rw [← power]
    exact_mod_cast Nat.log2_self_le num.ne'
  have numHigh : (n : ℚ) < 2 ^ ((n.log2 : ℤ) + 1) := by
    rw [← Nat.cast_succ, ← power]
    exact_mod_cast Nat.lt_log2_self
  have denLow : (2 : ℚ) ^ (d.log2 : ℤ) ≤ d := by
    rw [← power]
    exact_mod_cast Nat.log2_self_le den.ne'
  have denHigh : (d : ℚ) < 2 ^ ((d.log2 : ℤ) + 1) := by
    rw [← Nat.cast_succ, ← power]
    exact_mod_cast Nat.lt_log2_self
  constructor
  · rw [lt_div_iff₀ positive]
    calc (2 : ℚ) ^ ((n.log2 : ℤ) - d.log2 - 1) * d
        < 2 ^ ((n.log2 : ℤ) - d.log2 - 1) * 2 ^ ((d.log2 : ℤ) + 1) := by gcongr
      _ = 2 ^ (n.log2 : ℤ) := by rw [← zpow_add₀ two_ne_zero]; congr 1; omega
      _ ≤ n := numLow
  · rw [div_lt_iff₀ positive]
    calc (n : ℚ) < 2 ^ ((n.log2 : ℤ) + 1) := numHigh
      _ = 2 ^ ((n.log2 : ℤ) - d.log2 + 1) * 2 ^ (d.log2 : ℤ) := by
        rw [← zpow_add₀ two_ne_zero]; congr 1; omega
      _ ≤ 2 ^ ((n.log2 : ℤ) - d.log2 + 1) * d := by gcongr

/-- At this exponent a positive number has a mantissa of at most 53 bits, and of no fewer except at the
least exponent. -/
structure Fits (x : ℚ) (e : ℤ) : Prop where
  least : -1074 ≤ e
  below : x < 2 ^ 53 * 2 ^ e
  full : 2 ^ 52 * 2 ^ e ≤ x ∨ e = -1074

theorem fits_exponentFor {n d : ℕ} (num : 0 < n) (den : 0 < d) :
    Fits (n / d) (exponentFor n d) := by
  obtain ⟨above, below⟩ := ratio_bounds num den
  have reaches (e : ℤ) : 9007199254740992 ≤ (scaled n d e).1 / (scaled n d e).2
      ↔ (2 : ℚ) ^ 53 * 2 ^ e ≤ n / d := by
    have positive : (0 : ℚ) < (scaled n d e).2 := by exact_mod_cast scaled_pos den n e
    rw [← le_div_iff₀ (by positivity), ← scaled_ratio, le_div_iff₀ positive,
      Nat.le_div_iff_mul_le (scaled_pos den n e)]
    norm_num
    exact_mod_cast Iff.rfl
  have shift (k : ℕ) (e : ℤ) : (2 : ℚ) ^ k * 2 ^ e = 2 ^ (k + e) := by
    rw [zpow_add₀ two_ne_zero, zpow_natCast]
  have double (e : ℤ) : (2 : ℚ) ^ 52 * 2 ^ (e + 1) = 2 ^ 53 * 2 ^ e := by
    rw [shift, shift]
    congr 1
    push_cast
    omega
  have monotone {i j : ℤ} (order : i ≤ j) : (2 : ℚ) ^ i ≤ 2 ^ j := zpow_le_zpow_right₀ one_le_two order
  unfold exponentFor
  simp only [reaches]
  split
  · rename_i large
    refine ⟨by omega, ?_, Or.inl (by rwa [double])⟩
    refine below.trans_le ?_
    rw [shift]
    exact monotone (by push_cast; omega)
  · rename_i small
    refine ⟨by omega, not_le.mp small, ?_⟩
    by_cases least : (n.log2 : ℤ) - d.log2 - 53 ≤ -1074
    · exact Or.inr (by omega)
    · refine Or.inl (le_trans ?_ above.le)
      rw [shift]
      exact monotone (by push_cast; omega)

/-! ## The nearest double -/

theorem isNearest_value (d : Double) : d.IsNearest d.value := by
  intro e
  rw [sub_self, abs_zero]
  refine ⟨abs_nonneg _, fun other same => absurd ?_ other⟩
  exact (sub_eq_zero.mp (abs_eq_zero.mp same.symm)).symm

theorem abs_value (d : Double) : |d.value| = d.mantissa * 2 ^ d.exponent := by
  have magnitude : (0 : ℚ) ≤ d.mantissa * 2 ^ d.exponent := by positivity
  rw [value, abs_mul, abs_of_nonneg magnitude]
  cases d.negative <;> simp

theorem abs_value_lt (d : Double) : |d.value| < 2 ^ 53 * 2 ^ d.exponent := by
  have small : (d.mantissa : ℚ) < 2 ^ 53 := by exact_mod_cast d.canonical.1
  rw [abs_value]
  gcongr

theorem exists_multiple {d : Double} {e : ℤ} (fine : e ≤ d.exponent) :
    ∃ j : ℤ, d.value = j * 2 ^ e := by
  obtain ⟨k, more⟩ := Int.le.dest fine
  refine ⟨(if d.negative then -1 else 1) * (d.mantissa * 2 ^ k), ?_⟩
  rw [value, ← more, zpow_add₀ two_ne_zero, zpow_natCast]
  push_cast
  ring

/-- A number is rounded on the grid of its own exponent. Doubles on a coarser grid are on this one too,
and those with a smaller exponent lie beyond the first double with this one. -/
theorem isNearest_of_near {x : ℚ} {e : ℤ} {r : ℕ} {d : Double} (fits : Fits x e)
    (near : |x / 2 ^ e - r| ≤ 1 / 2) (even : |x / 2 ^ e - r| = 1 / 2 → r % 2 = 0)
    (rounded : d.value = r * 2 ^ e) (parity : r % 2 = 0 → d.mantissa % 2 = 0) : d.IsNearest x := by
  intro f
  have unit : (0 : ℚ) < 2 ^ e := by positivity
  have onGrid (j : ℤ) : |x - j * 2 ^ e| = |x / 2 ^ e - j| * 2 ^ e := by
    conv_rhs => rw [← abs_of_pos unit, ← abs_mul, sub_mul, abs_of_pos unit, div_mul_cancel₀ _ unit.ne']
  have near : |x / 2 ^ e - (r : ℤ)| ≤ 1 / 2 := by exact_mod_cast near
  have here : |x - d.value| = |x / 2 ^ e - (r : ℤ)| * 2 ^ e := by
    rw [rounded, ← onGrid]
    norm_cast
  rcases le_or_gt e f.exponent with fine | less
  · obtain ⟨j, grid⟩ := exists_multiple fine
    obtain ⟨nearer, tie⟩ := nearest_int (j := j) near
    rw [here, grid, onGrid]
    refine ⟨by gcongr, fun other same => parity (even ?_)⟩
    have different : j ≠ r := by
      rintro rfl
      exact other rounded.symm
    exact_mod_cast tie different (mul_right_cancel₀ unit.ne' same)
  · have full : 2 ^ 52 * 2 ^ e ≤ x := by
      rcases fits.full with full | least
      · exact full
      · have atLeast := f.canonical.2.1
        omega
    have small : |f.value| < 2 ^ 52 * 2 ^ e := by
      have step : (2 : ℚ) ^ f.exponent ≤ 2 ^ (e - 1) := zpow_le_zpow_right₀ one_le_two (by omega)
      rw [zpow_sub_one₀ two_ne_zero] at step
      have below := f.abs_value_lt
      linarith
    have first := (nearest_int (j := 2 ^ 52) near).1
    have atFirst : |x / 2 ^ e - ((2 ^ 52 : ℤ) : ℚ)| * 2 ^ e = x - 2 ^ 52 * 2 ^ e := by
      rw [← onGrid, Int.cast_pow, Int.cast_ofNat, abs_of_nonneg (sub_nonneg.mpr full)]
    have nearer : |x - d.value| ≤ x - 2 ^ 52 * 2 ^ e := by
      rw [here, ← atFirst]
      gcongr
    have farther : x - 2 ^ 52 * 2 ^ e < |x - f.value| := by
      have signed := le_abs_self f.value
      have distance := le_abs_self (x - f.value)
      linarith
    have nearest := nearer.trans_lt farther
    exact ⟨nearest.le, fun _ same => absurd same nearest.ne⟩

theorem ofParts?_eq_some {negative : Bool} {mantissa : ℕ} {e : ℤ} {d : Double}
    (found : ofParts? negative mantissa e = some d) :
    d.negative = negative ∧ d.mantissa = mantissa ∧ d.exponent = e := by
  unfold ofParts? at found
  split at found
  · cases found
    exact ⟨rfl, rfl, rfl⟩
  · contradiction

theorem ofRatio?_eq {n : ℕ} (num : 0 < n) (negative : Bool) (d : ℕ) :
    ofRatio? negative n d
      = let e := exponentFor n d
        let r := roundHalfEven (scaled n d e).1 (scaled n d e).2
        if r = 9007199254740992 then ofParts? negative 4503599627370496 (e + 1)
        else ofParts? negative r e :=
  if_neg num.ne'

section

variable {n d : ℕ} (num : 0 < n) (den : 0 < d)

include num den

/-- The mantissa that a fraction is rounded to, one too large for a double at most. -/
theorem mantissa_near :
    let e := exponentFor n d
    let r := roundHalfEven (scaled n d e).1 (scaled n d e).2
    |(n : ℚ) / d / 2 ^ e - r| ≤ 1 / 2 ∧ (|(n : ℚ) / d / 2 ^ e - r| = 1 / 2 → r % 2 = 0)
      ∧ r ≤ 2 ^ 53 ∧ (2 ^ 52 ≤ r ∨ e = -1074) := by
  intro e r
  have unit : (0 : ℚ) < 2 ^ e := by positivity
  have fits : Fits (n / d) e := fits_exponentFor num den
  obtain ⟨near, even⟩ := roundHalfEven_near (scaled_pos den n e) (a := (scaled n d e).1)
  rw [scaled_ratio] at near even
  have below := (div_lt_iff₀ unit).mpr fits.below
  obtain ⟨high, low⟩ := abs_le.mp near
  have few : (r : ℚ) < 2 ^ 53 + 1 := by linarith
  refine ⟨near, even, Nat.lt_succ_iff.mp (by exact_mod_cast few), fits.full.imp_left fun full => ?_⟩
  have full := (le_div_iff₀ unit).mpr full
  have many : (2 : ℚ) ^ 52 < r + 1 := by linarith
  exact Nat.lt_succ_iff.mp (by exact_mod_cast many)

end

/-- The double that a fraction is rounded to has the rounded mantissa, or half of it at the next
exponent. -/
theorem value_of_ofRatio? {negative : Bool} {n d : ℕ} (num : 0 < n) {f : Double}
    (found : ofRatio? negative n d = some f) :
    let e := exponentFor n d
    let r := roundHalfEven (scaled n d e).1 (scaled n d e).2
    f.negative = negative ∧ f.value = (if negative then -1 else 1) * (r * 2 ^ e)
      ∧ (r % 2 = 0 → f.mantissa % 2 = 0) := by
  intro e r
  rw [ofRatio?_eq num] at found
  simp only at found
  split at found
  · rename_i carry
    obtain ⟨sign, mantissa, exponent⟩ := ofParts?_eq_some found
    have exponent : f.exponent = e + 1 := exponent
    have carry : r = 9007199254740992 := carry
    have doubled : ((4503599627370496 : ℕ) : ℚ) * (2 ^ e * 2) = (9007199254740992 : ℕ) * 2 ^ e := by
      push_cast
      ring
    refine ⟨sign, ?_, fun _ => by rw [mantissa]⟩
    rw [value, sign, mantissa, exponent, carry, zpow_add_one₀ two_ne_zero, doubled]
  · obtain ⟨sign, mantissa, exponent⟩ := ofParts?_eq_some found
    exact ⟨sign, by rw [value, sign, mantissa, exponent], fun even => by rw [mantissa]; exact even⟩

/-- What a fraction is rounded to is nearest to it. -/
theorem isNearest_of_ofRatio? {negative : Bool} {n d : ℕ} (den : 0 < d) {f : Double}
    (found : ofRatio? negative n d = some f) :
    f.IsNearest ((if negative then -1 else 1) * (n / d)) := by
  rcases Nat.eq_zero_or_pos n with rfl | num
  · cases found
    have value : (zero negative).value = (if negative then -1 else 1) * (((0 : ℕ) : ℚ) / d) := by
      simp [Double.value, zero]
    rw [← value]
    exact isNearest_value _
  obtain ⟨sign, value, parity⟩ := value_of_ofRatio? num found
  obtain ⟨near, even, _⟩ := mantissa_near num den
  have fits : Fits (n / d) (exponentFor n d) := fits_exponentFor num den
  cases negative with
  | false =>
    rw [if_neg Bool.false_ne_true, one_mul] at value ⊢
    exact isNearest_of_near fits near even value parity
  | true =>
    rw [if_pos rfl, neg_one_mul] at value ⊢
    have flipped : f.negate.IsNearest (n / d) := by
      refine isNearest_of_near fits near even ?_ parity
      rw [value_negate, value, neg_neg]
    have back : f.negate.negate = f := by simp [Double.negate]
    rw [← back]
    exact flipped.negate

/-- A fraction below a half of the largest power of two has a double. -/
theorem exists_ofRatio? (negative : Bool) {n d : ℕ} (den : 0 < d) (small : (n : ℚ) / d < 2 ^ (1023 : ℤ)) :
    ∃ f, ofRatio? negative n d = some f := by
  rcases Nat.eq_zero_or_pos n with rfl | num
  · exact ⟨_, rfl⟩
  obtain ⟨_, _, few, many⟩ := mantissa_near num den
  have fits : Fits (n / d) (exponentFor n d) := fits_exponentFor num den
  have least := fits.least
  have exponent : exponentFor n d ≤ 970 := by
    rcases fits.full with full | least
    · have shift : (2 : ℚ) ^ 52 * 2 ^ exponentFor n d = 2 ^ (52 + exponentFor n d) := by
        rw [zpow_add₀ two_ne_zero]
        norm_cast
      rw [shift] at full
      have order := (zpow_lt_zpow_iff_right₀ one_lt_two).mp (full.trans_lt small)
      omega
    · omega
  rw [ofRatio?_eq num]
  simp only
  split
  · have canonical : CanonicalParts 4503599627370496 (exponentFor n d + 1) :=
      ⟨by decide, by omega, by omega, Or.inl le_rfl⟩
    exact ⟨_, dif_pos canonical⟩
  · rename_i noCarry
    exact ⟨_, dif_pos ⟨by omega, least, by omega, many⟩⟩

/-! ## Integers -/

/-- An integer of at most 53 bits is a double. -/
theorem exists_value_eq {n : ℤ} (small : |n| ≤ 2 ^ 53) : ∃ d : Double, d.value = n := by
  have magnitude (m : ℕ) (few : m ≤ 2 ^ 53) : ∃ d : Double, d.value = m := by
    rcases Nat.eq_zero_or_pos m with rfl | pos
    · exact ⟨zero false, by simp [value, zero]⟩
    rcases Nat.lt_or_eq_of_le few with below | rfl
    · -- moved up until it has 53 bits
      have log : m.log2 ≤ 52 := Nat.lt_succ_iff.mp ((Nat.log2_lt pos.ne').mpr below)
      have low : 2 ^ 52 ≤ m * 2 ^ (52 - m.log2) := by
        calc 2 ^ 52 = 2 ^ m.log2 * 2 ^ (52 - m.log2) := by rw [← pow_add]; congr 1; omega
          _ ≤ m * 2 ^ (52 - m.log2) := by gcongr; exact Nat.log2_self_le pos.ne'
      have high : m * 2 ^ (52 - m.log2) < 2 ^ 53 := by
        calc m * 2 ^ (52 - m.log2) < 2 ^ (m.log2 + 1) * 2 ^ (52 - m.log2) := by
              gcongr; exact Nat.lt_log2_self
          _ = 2 ^ 53 := by rw [← pow_add]; congr 1; omega
      refine ⟨⟨false, m * 2 ^ (52 - m.log2), -(52 - m.log2 : ℕ), high, by omega, by omega, Or.inl low⟩, ?_⟩
      simp [value, zpow_neg]
    · exact ⟨⟨false, 4503599627370496, 1, by decide⟩, by norm_num [value]⟩
  obtain ⟨m, rfl | rfl⟩ := n.eq_nat_or_neg
  · obtain ⟨d, same⟩ := magnitude m (by simpa using small)
    exact ⟨d, by rw [same, Int.cast_natCast]⟩
  · obtain ⟨d, same⟩ := magnitude m (by simpa using small)
    exact ⟨d.negate, by rw [value_negate, same, Int.cast_neg, Int.cast_natCast]⟩

/-- Rounding goes past no double. -/
theorem IsNearest.le_of_le {x : ℚ} {d e : Double} (nearest : d.IsNearest x) (below : x ≤ e.value) :
    d.value ≤ e.value := by
  by_contra above
  have above := not_le.mp above
  have near := (nearest e).1
  rw [abs_of_neg (by linarith), abs_of_nonpos (by linarith)] at near
  linarith

theorem IsNearest.ge_of_ge {x : ℚ} {d e : Double} (nearest : d.IsNearest x) (above : e.value ≤ x) :
    e.value ≤ d.value := by
  by_contra below
  have below := not_le.mp below
  have near := (nearest e).1
  rw [abs_of_pos (by linarith), abs_of_nonneg (by linarith)] at near
  linarith

/-- An integer is rounded to an integer. Beyond 53 bits there is nothing but integers among doubles. -/
theorem IsNearest.exists_int {a : ℤ} {d : Double} (nearest : d.IsNearest a) : ∃ n : ℤ, d.value = n := by
  by_cases small : |a| ≤ 2 ^ 53
  · obtain ⟨e, exact⟩ := exists_value_eq small
    exact ⟨a, nearest.eq_of_value exact⟩
  rcases le_or_gt 0 d.exponent with whole | broken
  · obtain ⟨j, same⟩ := exists_multiple whole
    exact ⟨j, by rw [same, zpow_zero, mul_one]⟩
  · -- a double with a fraction does not reach `2 ^ 53` or `-2 ^ 53`, which lie before `a`
    have step : (2 : ℚ) ^ d.exponent ≤ 2 ^ (0 : ℤ) := zpow_le_zpow_right₀ one_le_two broken.le
    have less := d.abs_value_lt
    obtain ⟨low, high⟩ := abs_lt.mp (less.trans_le (b := 2 ^ 53 * 2 ^ d.exponent) (c := 2 ^ 53) (by linarith))
    exfalso
    rcases lt_abs.mp (not_le.mp small) with above | under
    · obtain ⟨e, atEnd⟩ := exists_value_eq (n := 2 ^ 53) (by norm_num)
      have past := nearest.ge_of_ge (e := e) (by rw [atEnd]; exact_mod_cast above.le)
      rw [atEnd] at past
      push_cast at past
      linarith
    · obtain ⟨e, atEnd⟩ := exists_value_eq (n := -2 ^ 53) (by norm_num)
      have past := nearest.le_of_le (e := e) (by rw [atEnd]; exact_mod_cast (by omega : a ≤ -2 ^ 53))
      rw [atEnd] at past
      push_cast at past
      linarith

theorem isNearest_of_ofInt? {n : ℤ} {d : Double} (found : ofInt? n = some d) : d.IsNearest n := by
  have nearest := isNearest_of_ofRatio? Nat.one_pos found
  have same : (if decide (n < 0) then -1 else 1) * ((n.natAbs : ℚ) / (1 : ℕ)) = n := by
    rw [Nat.cast_one, div_one, Nat.cast_natAbs]
    by_cases negative : n < 0
    · simp [negative, abs_of_neg negative]
    · simp [negative, abs_of_nonneg (not_lt.mp negative)]
  rwa [same] at nearest

end ConnectorSchema.Number.Double
