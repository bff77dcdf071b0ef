import ConnectorSchema.Text.Letter

/-!
ASCII letters by their code points. A capital and its small letter are 32 apart, and no other character
changes its case (`toNat_toLower`, `toNat_toUpper`). What is needed of letters is then arithmetic. There
are lemmas on case in Batteries as well, but only the whole of Mathlib brings them in.
-/

namespace ConnectorSchema

theorem isUpper_iff {c : Char} : c.isUpper ↔ 'A' ≤ c ∧ c ≤ 'Z' := decide_eq_true_iff

theorem isLower_iff {c : Char} : c.isLower ↔ 'a' ≤ c ∧ c ≤ 'z' :=
  (Bool.and_eq_true_iff ..).trans (and_congr decide_eq_true_iff decide_eq_true_iff)

theorem isAlpha_iff {c : Char} : c.isAlpha ↔ c.isUpper ∨ c.isLower := Bool.or_eq_true_iff ..

theorem isAlpha_of_isUpper {c : Char} (capital : c.isUpper) : c.isAlpha :=
  isAlpha_iff.mpr (Or.inl capital)

theorem isAlpha_of_isLower {c : Char} (small : c.isLower) : c.isAlpha :=
  isAlpha_iff.mpr (Or.inr small)

theorem isUpper_iff_toNat {c : Char} : c.isUpper ↔ 0x41 ≤ c.toNat ∧ c.toNat ≤ 0x5A :=
  isUpper_iff.trans (and_congr UInt32.le_iff_toNat_le UInt32.le_iff_toNat_le)

theorem isLower_iff_toNat {c : Char} : c.isLower ↔ 0x61 ≤ c.toNat ∧ c.toNat ≤ 0x7A :=
  isLower_iff.trans (and_congr UInt32.le_iff_toNat_le UInt32.le_iff_toNat_le)

theorem toNat_lt_of_isAlpha {c : Char} (letter : c.isAlpha) : c.toNat < 128 := by
  rw [isAlpha_iff, isUpper_iff_toNat, isLower_iff_toNat] at letter
  omega

theorem toNat_lt_of_isAlphanum {c : Char} (word : c.isAlphanum) : c.toNat < 128 := by
  rw [Char.isAlphanum, Bool.or_eq_true, Char.isDigit_iff_toNat] at word
  rcases word with letter | digit
  · exact toNat_lt_of_isAlpha letter
  · have nine : '9'.toNat = 57 := rfl
    omega

theorem toNat_toLower (c : Char) :
    c.toLower.toNat = if c.isUpper then c.toNat + 32 else c.toNat := by
  by_cases capital : c.isUpper
  · have within := isUpper_iff_toNat.mp capital
    have moved : c.toLower = _ := dif_pos (isUpper_iff.mp capital)
    have distance : ('a'.val - 'A'.val).toNat = 32 := rfl
    rw [if_pos capital, moved, ← Char.toNat_val, UInt32.toNat_add, distance, Char.toNat_val]
    omega
  · have same : c.toLower = c := dif_neg (capital <| isUpper_iff.mpr ·)
    rw [if_neg capital, same]

theorem toNat_toUpper (c : Char) :
    c.toUpper.toNat = if c.isLower then c.toNat - 32 else c.toNat := by
  by_cases small : c.isLower
  · have within := isLower_iff_toNat.mp small
    have moved : c.toUpper = _ := dif_pos (isLower_iff.mp small)
    have distance : ('A'.val - 'a'.val).toNat = 2 ^ 32 - 32 := rfl
    rw [if_pos small, moved, ← Char.toNat_val, UInt32.toNat_add, distance, Char.toNat_val]
    omega
  · have same : c.toUpper = c := dif_neg (small <| isLower_iff.mpr ·)
    rw [if_neg small, same]

theorem toLower_eq_self {c : Char} (notUpper : ¬ c.isUpper) : c.toLower = c :=
  Char.toNat_inj.mp (by rw [toNat_toLower, if_neg notUpper])

theorem toUpper_eq_self {c : Char} (notLower : ¬ c.isLower) : c.toUpper = c :=
  Char.toNat_inj.mp (by rw [toNat_toUpper, if_neg notLower])

theorem isLower_toLower (c : Char) : c.toLower.isLower = c.isAlpha := by
  rw [Bool.eq_iff_iff, isAlpha_iff]
  simp only [isUpper_iff_toNat, isLower_iff_toNat, toNat_toLower]
  grind

theorem isUpper_toUpper (c : Char) : c.toUpper.isUpper = c.isAlpha := by
  rw [Bool.eq_iff_iff, isAlpha_iff]
  simp only [isUpper_iff_toNat, isLower_iff_toNat, toNat_toUpper]
  grind

theorem isAlpha_toLower {c : Char} (letter : c.isAlpha) : c.toLower.isAlpha :=
  isAlpha_of_isLower ((isLower_toLower c).trans letter)

theorem toNat_toLower_lt {c : Char} (ascii : c.toNat < 128) : c.toLower.toNat < 128 := by
  rw [toNat_toLower]
  split
  · rename_i capital
    obtain ⟨_, high⟩ := isUpper_iff_toNat.mp capital
    omega
  · exact ascii

theorem toLower_toUpper (c : Char) : c.toUpper.toLower = c.toLower := by
  refine Char.toNat_inj.mp ?_
  simp only [toNat_toLower, toNat_toUpper, isUpper_iff_toNat, isLower_iff_toNat]
  grind

theorem toUpper_toLower (c : Char) : c.toLower.toUpper = c.toUpper := by
  refine Char.toNat_inj.mp ?_
  simp only [toNat_toLower, toNat_toUpper, isUpper_iff_toNat, isLower_iff_toNat]
  grind

theorem toLower_toLower (c : Char) : c.toLower.toLower = c.toLower := by
  refine Char.toNat_inj.mp ?_
  simp only [toNat_toLower, isUpper_iff_toNat]
  grind

end ConnectorSchema
