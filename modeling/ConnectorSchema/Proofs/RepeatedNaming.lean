import ConnectorSchema.Proofs.FieldName
import ConnectorSchema.Proofs.LetterCase

/-!
Naming what has a name already. An attribute name holds nothing that is dropped, replaced or put into
lower case when it is named again; only a capital that has no small form may then begin a word that it
did not begin before (`attributeName_settles`). The third time nothing changes any more.
-/

namespace ConnectorSchema.Naming

open Text

/-- Whether a capital stands behind a small letter, or behind a capital and before a small letter. -/
def Unseparated (t : List Char) : Prop :=
  ∃ before p c after, t = before ++ p :: c :: after ∧ isUpper c
    ∧ (isLower p ∨ isUpper p ∧ after.head?.any isLower)

theorem unseparated_cons_iff {p c : Char} {rest : List Char} :
    Unseparated (p :: c :: rest) ↔ beginsWord (some p) c rest.head? ∨ Unseparated (c :: rest) := by
  constructor
  · rintro ⟨before, q, d, after, split, capital, word⟩
    cases before with
    | nil =>
      obtain ⟨rfl, tail⟩ := List.cons.inj split
      obtain ⟨rfl, rfl⟩ := List.cons.inj tail
      exact Or.inl (by simpa [beginsWord, capital] using word)
    | cons first before => exact Or.inr ⟨before, q, d, after, (List.cons.inj split).2, capital, word⟩
  · rintro (begins | ⟨before, q, d, after, split, capital, word⟩)
    · simp only [beginsWord, Option.any_some, Bool.and_eq_true, Bool.or_eq_true] at begins
      exact ⟨[], p, c, rest, rfl, begins.1, begins.2⟩
    · exact ⟨p :: before, q, d, after, by rw [split]; rfl, capital, word⟩

theorem not_unseparated_singleton (c : Char) : ¬ Unseparated [c] := by
  rintro ⟨before, p, d, after, split, _, _⟩
  have length := congrArg List.length split
  simp only [List.length_append, List.length_cons, List.length_nil] at length
  omega

theorem length_le_splitWordsAfter (before : Option Char) (cs : List Char) :
    cs.length ≤ (splitWordsAfter before cs).length := by
  induction cs generalizing before with
  | nil => exact Nat.le_refl _
  | cons c rest ih =>
    have later := ih (some c)
    unfold splitWordsAfter
    split <;> simp only [List.length_cons] <;> omega

theorem splitWordsAfter_eq_self_iff {p : Char} {cs : List Char} :
    splitWordsAfter (some p) cs = cs ↔ ¬ Unseparated (p :: cs) := by
  induction cs generalizing p with
  | nil => exact iff_of_true rfl (not_unseparated_singleton p)
  | cons c rest ih =>
    rw [unseparated_cons_iff, splitWordsAfter]
    by_cases begins : beginsWord (some p) c rest.head?
    · rw [if_pos begins]
      refine iff_of_false (fun same => ?_) (not_not_intro (Or.inl begins))
      have longer := length_le_splitWordsAfter (some c) rest
      have length := congrArg List.length same
      simp only [List.length_cons] at length
      omega
    · rw [if_neg begins, List.cons_inj_right, ih]
      simp [begins]

theorem splitWords_eq_self_iff {cs : List Char} :
    splitWordsAfter none cs = cs ↔ ¬ Unseparated cs := by
  cases cs with
  | nil =>
    refine iff_of_true rfl ?_
    rintro ⟨before, _, _, _, split, _⟩
    simp at split
  | cons c rest =>
    have first : beginsWord none c rest.head? = false := by simp [beginsWord]
    rw [splitWordsAfter, first, if_neg Bool.false_ne_true, List.cons_inj_right,
      splitWordsAfter_eq_self_iff]

theorem head?_splitWordsAfter (before : Option Char) (cs : List Char) :
    (splitWordsAfter before cs).head? = cs.head?
      ∨ (splitWordsAfter before cs).head? = some '_' := by
  cases cs with
  | nil => exact Or.inl rfl
  | cons c rest =>
    unfold splitWordsAfter
    split
    · exact Or.inr rfl
    · exact Or.inl rfl

/-- The words that begin by case are all found at once. -/
theorem splitWordsAfter_twice (before : Option Char) (cs : List Char) :
    splitWordsAfter before (splitWordsAfter before cs) = splitWordsAfter before cs := by
  have underscore : isUpper '_' = false ∧ isLower '_' = false := by decide
  have mark (c : Option Char) (after : Option Char) : beginsWord c '_' after = false := by
    simp [beginsWord, underscore]
  have marked (c : Char) (after : Option Char) : beginsWord (some '_') c after = false := by
    simp [beginsWord, underscore]
  induction cs generalizing before with
  | nil => rfl
  | cons c rest ih =>
    by_cases begins : beginsWord before c rest.head?
    · rw [splitWordsAfter, if_pos begins, splitWordsAfter, if_neg (by simp [mark]),
        splitWordsAfter, if_neg (by simp [marked]), ih]
    · -- what was put in behind `c` is no small letter, so it lets no word begin at `c`
      have still : ¬ beginsWord before c (splitWordsAfter (some c) rest).head? := by
        rcases head?_splitWordsAfter (some c) rest with same | separated
        · rwa [same]
        · rw [separated]
          intro now
          apply begins
          simp only [beginsWord, Option.any_some, underscore.2, Bool.and_false, Bool.or_false,
            Bool.and_eq_true] at now
          obtain ⟨capital, small⟩ := now
          cases before with
          | none => exact absurd small Bool.false_ne_true
          | some b =>
            rw [Option.any_some] at small
            simp [beginsWord, capital, small]
      rw [splitWordsAfter, if_neg begins, splitWordsAfter, if_neg still, ih]

/-- A character that is left as it is when a name is made of it. -/
structure IsKept (c : Char) : Prop where
  notDot : c ≠ '.'
  notDash : c ≠ '-'
  notSigma : c ≠ 'Σ'
  lower : Text.lower c = [c]

theorem isKept_underscore : IsKept '_' := ⟨by decide, by decide, by decide, by decide⟩

theorem isKept_of_isLowered {c : Char} (lowered : IsLowered c) : IsKept c := by
  have letters := lowered.letters
  refine ⟨?_, ?_, ?_, lowered.lower⟩
  · rintro rfl
    exact absurd letters (by decide)
  · rintro rfl
    exact absurd letters (by decide)
  · rintro rfl
    exact absurd lowered.notUpper (by decide +kernel)

theorem underscored_eq_self {c : Char} (notDot : c ≠ '.') (notDash : c ≠ '-') : underscored c = c :=
  if_neg (not_or.mpr ⟨notDot, notDash⟩)

theorem underscored_cases (c : Char) :
    underscored c = '_' ∨ underscored c = c ∧ c ≠ '.' ∧ c ≠ '-' := by
  by_cases replaced : c = '.' ∨ c = '-'
  · exact Or.inl (if_pos replaced)
  · exact Or.inr ⟨if_neg replaced, not_or.mp replaced⟩

/-- The characters of an attribute name. The capitals among them stood in the name it was made from
and have no small form. -/
theorem mem_attributeChars {name : List Char} {c : Char} (member : c ∈ attributeChars name) :
    IsKept c ∧ (isUpper c → c ∈ name) := by
  rcases mem_lowerAfter member with lowered | ⟨inWords, own, notSigma⟩
  · refine ⟨isKept_of_isLowered lowered, fun capital => ?_⟩
    rw [lowered.notUpper] at capital
    contradiction
  have separator : IsKept '_' ∧ (isUpper '_' → '_' ∈ name) :=
    ⟨isKept_underscore, fun capital => absurd capital (by decide)⟩
  rcases mem_of_mem_splitWordsAfter inWords with rfl | inName
  · exact separator
  obtain ⟨d, inStem, replaced⟩ := List.mem_map.mp inName
  rcases underscored_cases d with mark | ⟨same, notDot, notDash⟩
  · rw [← replaced, mark]
    exact separator
  · obtain rfl : d = c := same.symm.trans replaced
    exact ⟨⟨notDot, notDash, notSigma, own⟩, fun _ => mem_of_mem_dropUserSuffix inStem⟩

/-- Of what is kept, only the words can still be separated. -/
theorem attributeChars_of_isKept {cs : List Char} (kept : ∀ c ∈ cs, IsKept c) :
    attributeChars cs = splitWordsAfter none cs := by
  have stem : dropUserSuffix cs = cs := by
    refine dropUserSuffix_eq_self fun suffix listed ends => ?_
    have dotted : ∀ suffix ∈ userSuffixes, '.' ∈ suffix.toList := by decide
    exact (kept '.' (ends.subset (dotted suffix listed))).notDot rfl
  have marks : cs.map underscored = cs := by
    refine (List.map_congr_left fun c member => ?_).trans (List.map_id' cs)
    exact underscored_eq_self (kept c member).notDot (kept c member).notDash
  rw [attributeChars, stem, marks, lowerAll]
  refine lowerAfter_of_own fun c member => ?_
  rcases mem_of_mem_splitWordsAfter member with rfl | inCs
  · exact ⟨isKept_underscore.lower, isKept_underscore.notSigma⟩
  · exact ⟨(kept c inCs).lower, (kept c inCs).notSigma⟩

theorem attributeChars_twice (name : List Char) :
    attributeChars (attributeChars name) = splitWordsAfter none (attributeChars name) :=
  attributeChars_of_isKept fun _ member => (mem_attributeChars member).1

theorem attributeChars_thrice (name : List Char) :
    attributeChars (attributeChars (attributeChars name)) = attributeChars (attributeChars name) := by
  have kept : ∀ c ∈ attributeChars (attributeChars name), IsKept c := fun _ member =>
    (mem_attributeChars member).1
  rw [attributeChars_of_isKept kept, attributeChars_twice, splitWordsAfter_twice]

theorem attributeName_settles (name : String) :
    (∀ c ∈ (attributeName name).toList, isUpper c → c ∈ name.toList ∧ lower c = [c])
    ∧ (attributeName (attributeName name) = attributeName name
        ↔ ¬ Unseparated (attributeName name).toList)
    ∧ ((∀ c ∈ name.toList, isUpper c → lower c ≠ [c]) →
        attributeName (attributeName name) = attributeName name)
    ∧ attributeName (attributeName (attributeName name)) = attributeName (attributeName name) := by
  have capitals : ∀ c ∈ (attributeName name).toList, isUpper c → c ∈ name.toList ∧ lower c = [c] := by
    rw [toList_attributeName]
    intro c member capital
    obtain ⟨kept, fromName⟩ := mem_attributeChars member
    exact ⟨fromName capital, kept.lower⟩
  have settled : attributeName (attributeName name) = attributeName name
      ↔ ¬ Unseparated (attributeName name).toList := by
    rw [← splitWords_eq_self_iff, ← String.toList_inj, toList_attributeName, toList_attributeName,
      attributeChars_twice]
  refine ⟨capitals, settled, fun small => settled.mpr ?_, ?_⟩
  · rintro ⟨before, p, c, after, split, capital, _⟩
    have member : c ∈ (attributeName name).toList := by simp [split]
    obtain ⟨inName, own⟩ := capitals c member capital
    exact small c inName capital own
  · rw [← String.toList_inj]
    simp only [toList_attributeName, attributeChars_thrice]

theorem attributeName_settles_sslMode :
    (∀ c ∈ "Σύστημα.SSLMode".toList, isUpper c → lower c ≠ [c])
    ∧ attributeName (attributeName "Σύστημα.SSLMode") = attributeName "Σύστημα.SSLMode" := by
  have checked : "Σύστημα.SSLMode".toList.all (fun c => !isUpper c || lower c != [c]) := by
    decide +kernel
  have small : ∀ c ∈ "Σύστημα.SSLMode".toList, isUpper c → lower c ≠ [c] := by
    intro c member capital
    simpa [capital] using List.all_eq_true.mp checked c member
  exact ⟨small, (attributeName_settles "Σύστημα.SSLMode").2.2.1 small⟩

/-- The double-struck capital has no small form. Behind the capital `B` it begins no word, but behind
the `b` that is left of it it does. -/
theorem attributeName_not_settled :
    attributeName "Bℂ" = "bℂ" ∧ attributeName (attributeName "Bℂ") ≠ attributeName "Bℂ" := by
  have first : attributeChars ['B', 'ℂ'] = ['b', 'ℂ'] := by decide +kernel
  have again : attributeChars ['b', 'ℂ'] = ['b', '_', 'ℂ'] := by decide +kernel
  have once : attributeName "Bℂ" = "bℂ" := congrArg String.ofList first
  have twice : attributeName "bℂ" = "b_ℂ" := congrArg String.ofList again
  rw [once, twice]
  exact ⟨rfl, by decide⟩

end ConnectorSchema.Naming
