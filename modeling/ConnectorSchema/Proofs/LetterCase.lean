import ConnectorSchema.Proofs.AsciiCase

/-!
Lower case beyond ASCII. The tables are read once (`lower_cases`): a character is its own lower case,
or its lower case consists of characters that are their own and no capitals. Capitals of the first sort
exist, such as the bold ones of mathematics, and stay as they are.
-/

namespace ConnectorSchema.Text

def Run.members (run : Run) : List Nat :=
  (List.range ((run.last - run.first) / run.step + 1)).map fun k => run.first + run.step * k

theorem Run.mem_members {run : Run} {n : Nat} (member : run.contains n) : n ∈ run.members := by
  simp only [contains, Bool.and_eq_true, decide_eq_true_eq, beq_iff_eq] at member
  obtain ⟨⟨low, high⟩, onStep⟩ := member
  refine List.mem_map.mpr ⟨(n - run.first) / run.step, List.mem_range.mpr ?_, ?_⟩
  · have bound : (n - run.first) / run.step ≤ (run.last - run.first) / run.step :=
      Nat.div_le_div_right (by omega)
    omega
  · rw [Nat.mul_div_cancel' (Nat.dvd_of_mod_eq_zero onStep)]
    omega

/-- The set of these numbers, as the bits of one. Two large sets are compared fast in this form. -/
def bits (members : List Nat) : Nat := members.foldr (fun n set => 1 <<< n ||| set) 0

theorem testBit_bits {members : List Nat} {n : Nat} :
    (bits members).testBit n ↔ n ∈ members := by
  induction members with
  | nil => simp [bits]
  | cons m rest ih =>
    have split : bits (m :: rest) = 1 <<< m ||| bits rest := rfl
    rw [split, Nat.testBit_or, Bool.or_eq_true, ih, Nat.one_shiftLeft, Nat.testBit_two_pow,
      decide_eq_true_eq, List.mem_cons, eq_comm]

theorem notMem_of_bits {a b : List Nat} (apart : bits a &&& bits b = 0) {n : Nat} (inA : n ∈ a) :
    n ∉ b := by
  intro inB
  have common : (bits a &&& bits b).testBit n = true := by
    rw [Nat.testBit_and, testBit_bits.mpr inA, testBit_bits.mpr inB]
    rfl
  rw [apart, Nat.zero_testBit] at common
  contradiction

/-- Where a shift moves its run to. -/
def Shift.image (s : Shift) : Run := ⟨s.target, s.target + (s.run.last - s.run.first), s.run.step⟩

theorem Shift.contains_image {s : Shift} {n : Nat} (member : s.run.contains n) :
    s.image.contains (s.target + (n - s.run.first)) := by
  simp only [Run.contains, Bool.and_eq_true, decide_eq_true_eq, beq_iff_eq] at member ⊢
  obtain ⟨⟨low, high⟩, onStep⟩ := member
  have distance : s.target + (n - s.run.first) - s.target = n - s.run.first := by omega
  simp only [image, distance]
  exact ⟨⟨by omega, by omega⟩, onStep⟩

/-- The code points that lower case moves to are neither moved further nor capitals. -/
theorem lowerShifts_apart : bits (lowerShifts.flatMap (·.image.members))
    &&& bits ((lowerShifts.map (·.run) ++ uppercaseRuns).flatMap Run.members) = 0 := by
  decide +kernel

/-- The shift moves to code points of characters, and to none before `least`. -/
def Shift.staysFrom (least : Nat) (s : Shift) : Bool :=
  least ≤ s.image.first
    && (s.image.last < 0xD800 || (0xDFFF < s.image.first && s.image.last < 0x110000))

/-- Lower case moves to letters, the ASCII ones among them, and never out of the code points. -/
theorem lowerShifts_stay : lowerShifts.all (·.staysFrom 0x61) = true := by decide +kernel

theorem toNat_ofNat {n : Nat} (valid : n < 0xD800 ∨ 0xDFFF < n ∧ n < 0x110000) :
    (Char.ofNat n).toNat = n := by
  rw [Char.ofNat, dif_pos valid]
  rfl

theorem shifted?_eq_none {shifts : List Shift} {c : Char}
    (still : ∀ s ∈ shifts, s.run.contains c.toNat = false) : shifted? shifts c = none := by
  rw [shifted?, Option.map_eq_none_iff, List.find?_eq_none]
  intro s member
  simp [still s member]

theorem inRuns_eq_false {runs : List Run} {c : Char}
    (outside : ∀ run ∈ runs, run.contains c.toNat = false) : inRuns runs c = false := by
  rw [inRuns, List.any_eq_false]
  intro run member
  simp [outside run member]

/-- What is moved comes to a code point in the image of a shift. -/
theorem exists_image_of_shifted {shifts : List Shift} {least : Nat}
    (stay : shifts.all (·.staysFrom least) = true) {c d : Char} (moved : shifted? shifts c = some d) :
    ∃ s ∈ shifts, s.image.contains d.toNat ∧ least ≤ d.toNat := by
  obtain ⟨s, found, rfl⟩ := Option.map_eq_some_iff.mp moved
  have listed := List.mem_of_find?_eq_some found
  have within : s.run.contains c.toNat := List.find?_some (p := fun s : Shift => s.run.contains c.toNat) found
  have member := Shift.contains_image within
  have stays := List.all_eq_true.mp stay s listed
  generalize s.target + (c.toNat - s.run.first) = n at member ⊢
  have bounds := member
  simp only [Run.contains, Bool.and_eq_true, decide_eq_true_eq] at bounds
  simp only [Shift.staysFrom, Bool.and_eq_true, Bool.or_eq_true, decide_eq_true_eq] at stays
  have code : (Char.ofNat n).toNat = n := toNat_ofNat (by omega)
  rw [code]
  exact ⟨s, listed, member, by omega⟩

/-- A character that lower case moves to. -/
theorem shifted_lower {c d : Char} (moved : shifted? lowerShifts c = some d) :
    0x61 ≤ d.toNat ∧ shifted? lowerShifts d = none ∧ inRuns uppercaseRuns d = false := by
  obtain ⟨s, listed, member, letters⟩ := exists_image_of_shifted lowerShifts_stay moved
  have apart : d.toNat ∉ (lowerShifts.map (·.run) ++ uppercaseRuns).flatMap Run.members :=
    notMem_of_bits lowerShifts_apart (List.mem_flatMap_of_mem listed (Run.mem_members member))
  have outside : ∀ run ∈ lowerShifts.map (·.run) ++ uppercaseRuns, run.contains d.toNat = false :=
    fun run listed => Bool.eq_false_iff.mpr fun inRun =>
      apart (List.mem_flatMap_of_mem listed (Run.mem_members inRun))
  refine ⟨letters, shifted?_eq_none fun t other => ?_, inRuns_eq_false fun run other => ?_⟩
  · exact outside t.run (List.mem_append_left _ (List.mem_map_of_mem other))
  · exact outside run (List.mem_append_right _ other)

/-- A character in lower case: it is no separator, has no other lower case and is no capital. -/
structure IsLowered (c : Char) : Prop where
  letters : 0x61 ≤ c.toNat
  lower : Text.lower c = [c]
  notUpper : isUpper c = false

theorem isUpper_eq_false_of_le {c : Char} (letters : 0x61 ≤ c.toNat) : c.isUpper = false := by
  rw [Bool.eq_false_iff, Ne, isUpper_iff_toNat]
  omega

theorem isLowered_of_apart {c : Char} (letters : 0x61 ≤ c.toNat)
    (still : shifted? lowerShifts c = none) (plain : inRuns uppercaseRuns c = false) :
    IsLowered c := by
  by_cases ascii : c.toNat < 128
  · have small := isUpper_eq_false_of_le letters
    have same : c.toLower = c := toLower_eq_self (by simp [small])
    exact ⟨letters, by rw [lower_ascii ascii, same], by rw [isUpper_ascii ascii, small]⟩
  · have notDotted : c ≠ 'İ' := by
      rintro rfl
      exact absurd plain (by decide +kernel)
    refine ⟨letters, ?_, ?_⟩
    · simp [lower, isAscii, ascii, notDotted, still]
    · simpa [isUpper, isAscii, ascii] using plain

theorem isLowered_toLower {c : Char} (capital : c.isUpper) : IsLowered c.toLower := by
  obtain ⟨low, high⟩ := isUpper_iff_toNat.mp capital
  have code : c.toLower.toNat = c.toNat + 32 := by rw [toNat_toLower, if_pos capital]
  have letters : 0x61 ≤ c.toLower.toNat := by omega
  have small : c.toLower.toNat < 128 := by omega
  have notUpper := isUpper_eq_false_of_le letters
  refine ⟨letters, ?_, by rw [isUpper_ascii small, notUpper]⟩
  rw [lower_ascii small, toLower_eq_self (by simp [notUpper])]

/-- The lower case of a character is the character itself or consists of others, which are lowered. -/
theorem lower_cases (c : Char) : lower c = [c] ∨ ∀ d ∈ lower c, IsLowered d := by
  by_cases ascii : c.toNat < 128
  · rw [lower_ascii ascii]
    by_cases capital : c.isUpper
    · refine Or.inr fun d member => ?_
      rw [List.mem_singleton.mp member]
      exact isLowered_toLower capital
    · exact Or.inl (by rw [toLower_eq_self capital])
  by_cases dotted : c = 'İ'
  · have small : IsLowered 'i' :=
      isLowered_of_apart (by decide) (by decide +kernel) (by decide +kernel)
    have dot : IsLowered '\u0307' :=
      isLowered_of_apart (by decide) (by decide +kernel) (by decide +kernel)
    have parts : lower c = ['i', '\u0307'] := by simp [lower, isAscii, dotted]
    refine Or.inr fun d member => ?_
    rw [parts, List.mem_cons, List.mem_singleton] at member
    rcases member with rfl | rfl
    · exact small
    · exact dot
  have looked : lower c = [(shifted? lowerShifts c).getD c] := by
    simp [lower, isAscii, ascii, dotted]
  rw [looked]
  cases moved : shifted? lowerShifts c with
  | none => exact Or.inl rfl
  | some d =>
    refine Or.inr fun e member => ?_
    rw [List.mem_singleton.mp member, Option.getD_some]
    obtain ⟨letters, still, plain⟩ := shifted_lower moved
    exact isLowered_of_apart letters still plain

/-- In the lower case of a text stand lowered characters, and those of the text itself that are their
own lower case. The capital sigma is not among these: it has a small form at either place. -/
theorem mem_lowerAfter {before cs : List Char} {d : Char} (member : d ∈ lowerAfter before cs) :
    IsLowered d ∨ d ∈ cs ∧ lower d = [d] ∧ d ≠ 'Σ' := by
  induction cs generalizing before with
  | nil => exact absurd member List.not_mem_nil
  | cons c rest ih =>
    rw [lowerAfter, List.mem_append] at member
    rcases member with here | later
    · split at here
      · have middle : IsLowered 'σ' :=
          isLowered_of_apart (by decide) (by decide +kernel) (by decide +kernel)
        have final : IsLowered 'ς' :=
          isLowered_of_apart (by decide) (by decide +kernel) (by decide +kernel)
        rw [List.mem_singleton] at here
        subst here
        split
        · exact Or.inl final
        · exact Or.inl middle
      · rename_i other
        rcases lower_cases c with own | lowered
        · rw [own, List.mem_singleton] at here
          subst here
          exact Or.inr ⟨List.mem_cons_self, own, other⟩
        · exact Or.inl (lowered d here)
    · rcases ih later with lowered | ⟨inRest, own, other⟩
      · exact Or.inl lowered
      · exact Or.inr ⟨List.mem_cons_of_mem _ inRest, own, other⟩

theorem lowerAfter_of_own {before cs : List Char} (own : ∀ c ∈ cs, lower c = [c] ∧ c ≠ 'Σ') :
    lowerAfter before cs = cs := by
  induction cs generalizing before with
  | nil => rfl
  | cons c rest ih =>
    obtain ⟨⟨same, other⟩, later⟩ := List.forall_mem_cons.mp own
    rw [lowerAfter, if_neg other, same, ih later]
    rfl

end ConnectorSchema.Text
