import ConnectorSchema.Proofs.AttributeName
import ConnectorSchema.Proofs.Mappings
import ConnectorSchema.Proofs.RepeatedNaming

/-!
Characters that naming leaves alone, such as tabs and line breaks. A name has them just where the text
that it is made of has them, so a document shows whether they come up in its model
(`Naming.mem_pascalChars_iff`, `Model.mem_name_iff`).
-/

namespace ConnectorSchema

namespace Text

/-- The mapping leaves the code points before `least` where they are, and moves nothing there. -/
structure LeavesBelow (least : Nat) (f : Char → List Char) : Prop where
  own : ∀ c, c.toNat < least → f c = [c]
  moved : ∀ c, ∀ d ∈ f c, d = c ∨ least ≤ d.toNat

theorem LeavesBelow.mem_flatMap_iff {least : Nat} {f : Char → List Char} (leaves : LeavesBelow least f)
    {c : Char} (below : c.toNat < least) {cs : List Char} : c ∈ cs.flatMap f ↔ c ∈ cs := by
  rw [List.mem_flatMap]
  constructor
  · rintro ⟨d, inCs, member⟩
    rcases leaves.moved d c member with rfl | above
    · exact inCs
    · omega
  · exact fun inCs => ⟨c, inCs, by rw [leaves.own c below]; exact List.mem_singleton_self c⟩

/-- Upper case moves to letters, the ASCII ones among them, and never out of the code points. -/
theorem upperShifts_stay : upperShifts.all (·.staysFrom 0x41) = true := by decide +kernel

theorem upperExpansions_stay :
    upperExpansions.all (·.2.all fun code => 0x41 ≤ code && code < 0xD800) = true := by decide +kernel

theorem isUpper_eq_false_of_lt {c : Char} (below : c.toNat < 0x41) : c.isUpper = false := by
  rw [Bool.eq_false_iff, Ne, isUpper_iff_toNat]
  omega

theorem isLower_eq_false_of_lt {c : Char} (below : c.toNat < 0x61) : c.isLower = false := by
  rw [Bool.eq_false_iff, Ne, isLower_iff_toNat]
  omega

theorem leavesBelow_lower : LeavesBelow 0x41 lower where
  own c below := by
    have plain := isUpper_eq_false_of_lt below
    rw [lower_ascii (by omega), toLower_eq_self (by simp [plain])]
  moved c d member := by
    rcases lower_cases c with own | lowered
    · rw [own] at member
      exact Or.inl (List.mem_singleton.mp member)
    · have letters := (lowered d member).letters
      exact Or.inr (by omega)

theorem le_toNat_toUpper {c : Char} (small : c.isLower) : 0x41 ≤ c.toUpper.toNat := by
  have letter : c.isAlpha := isAlpha_of_isLower small
  have capital : c.toUpper.isUpper := (isUpper_toUpper c).trans letter
  exact (isUpper_iff_toNat.mp capital).1

theorem leavesBelow_upper : LeavesBelow 0x41 upper where
  own c below := by
    have plain := isLower_eq_false_of_lt (show c.toNat < 0x61 by omega)
    rw [upper_ascii (by omega), toUpper_eq_self (by simp [plain])]
  moved c d member := by
    by_cases ascii : c.toNat < 128
    · rw [upper_ascii ascii, List.mem_singleton] at member
      subst member
      by_cases small : c.isLower
      · exact Or.inr (le_toNat_toUpper small)
      · exact Or.inl (toUpper_eq_self small)
    simp only [upper, isAscii, ascii, decide_false, Bool.false_eq_true, if_false] at member
    split at member
    · rename_i codes found
      obtain ⟨code, listed, rfl⟩ := List.mem_map.mp member
      obtain ⟨before, after, split, _⟩ := List.lookup_eq_some_iff.mp found
      have entry : (c.toNat, codes) ∈ upperExpansions := by simp [split]
      have stays := List.all_eq_true.mp (List.all_eq_true.mp upperExpansions_stay _ entry) code listed
      simp only [Bool.and_eq_true, decide_eq_true_eq] at stays
      rw [toNat_ofNat (Or.inl stays.2)]
      exact Or.inr stays.1
    · rw [List.mem_singleton] at member
      cases moved : shifted? upperShifts c with
      | none =>
        rw [moved] at member
        exact Or.inl member
      | some e =>
        obtain ⟨_, _, _, above⟩ := exists_image_of_shifted upperShifts_stay moved
        rw [moved, Option.getD_some] at member
        exact Or.inr (member ▸ above)

end Text

namespace Naming

open Text

section

variable {c : Char} (below : c.toNat < 0x41)

include below

theorem mem_titleChars_iff {cs : List Char} : c ∈ titleChars cs ↔ c ∈ cs := by
  cases cs with
  | nil => exact Iff.rfl
  | cons d rest =>
    have first : c ∈ upper d ↔ c = d := by
      rw [← List.flatMap_singleton upper, leavesBelow_upper.mem_flatMap_iff below, List.mem_singleton]
    rw [titleChars, List.mem_append, first, leavesBelow_lower.mem_flatMap_iff below, List.mem_cons]

theorem mem_wordChars_iff {word : List Char} : c ∈ wordChars word ↔ c ∈ word := by
  rw [wordChars]
  split
  · exact leavesBelow_upper.mem_flatMap_iff below
  · exact mem_titleChars_iff below

/-- A field name has the character in it just where its text has. -/
theorem mem_pascalChars_iff (plain : isSeparator c = false) {name : List Char} :
    c ∈ pascalChars name ↔ c ∈ name := by
  have inWords : (∃ word ∈ words name, c ∈ word) ↔ c ∈ name := by
    rw [← List.mem_flatten, flatten_words, List.mem_filter, plain]
    simp
  rw [pascalChars_eq, List.mem_flatMap, ← inWords]
  simp only [mem_wordChars_iff below]

end

/-- A character that no step of naming takes for a letter or a mark between words. -/
structure IsInert (c : Char) : Prop where
  small : c.toNat < 0x61
  own : lower c = [c]
  notMark : c ∉ ['.', '-', '_']

theorem sublist_splitWordsAfter (before : Option Char) (cs : List Char) :
    cs.Sublist (splitWordsAfter before cs) := by
  induction cs generalizing before with
  | nil => exact List.Sublist.refl []
  | cons c rest ih =>
    unfold splitWordsAfter
    split
    · exact ((ih (some c)).cons_cons c).cons '_'
    · exact (ih (some c)).cons_cons c

theorem mem_lowerAfter_of_own {before cs : List Char} {c : Char} (own : lower c = [c])
    (notSigma : c ≠ 'Σ') (member : c ∈ cs) : c ∈ lowerAfter before cs := by
  induction cs generalizing before with
  | nil => exact absurd member List.not_mem_nil
  | cons d rest ih =>
    rw [lowerAfter, List.mem_append]
    rcases List.mem_cons.mp member with rfl | later
    · rw [if_neg notSigma, own]
      exact Or.inl List.mem_cons_self
    · exact Or.inr (ih later)

theorem mem_dropUserSuffix {name : List Char} {c : Char}
    (outside : ∀ suffix ∈ userSuffixes, c ∉ suffix.toList) (member : c ∈ name) :
    c ∈ dropUserSuffix name := by
  have stem : IsStem name (dropUserSuffix name) := isStem_iff.mpr rfl
  generalize dropUserSuffix name = t at stem ⊢
  cases stem with
  | defined ends =>
    rw [ends, List.mem_append] at member
    exact member.resolve_right (outside ".user.defined" (by decide))
  | displayed ends =>
    rw [ends, List.mem_append] at member
    exact member.resolve_right (outside ".user.displayed" (by decide))
  | whole => exact member

section

variable {c : Char} (inert : IsInert c)

include inert

theorem IsInert.notMem_userSuffix : ∀ suffix ∈ userSuffixes, c ∉ suffix.toList := by
  have letters : userSuffixes.all (·.toList.all fun d => d = '.' || d.isLower) = true := by decide
  intro suffix listed member
  have letter := List.all_eq_true.mp (List.all_eq_true.mp letters suffix listed) c member
  rw [isLower_eq_false_of_lt inert.small, Bool.or_false, decide_eq_true_eq] at letter
  exact inert.notMark (by simp [letter])

/-- Inert characters go through naming as they are, and naming puts none of them in. -/
theorem IsInert.mem_attributeChars_iff {name : List Char} : c ∈ attributeChars name ↔ c ∈ name := by
  have small := inert.small
  have marks : c ≠ '.' ∧ c ≠ '-' ∧ c ≠ '_' := by simpa using inert.notMark
  obtain ⟨notDot, notDash, notUnderscore⟩ := marks
  constructor
  · intro member
    rcases mem_lowerAfter member with lowered | ⟨inWords, _, _⟩
    · have letters := lowered.letters
      omega
    · have inMarks := (mem_of_mem_splitWordsAfter inWords).resolve_left notUnderscore
      obtain ⟨d, inStem, replaced⟩ := List.mem_map.mp inMarks
      rcases underscored_cases d with mark | ⟨kept, _⟩
      · exact absurd (replaced.symm.trans mark) notUnderscore
      · obtain rfl : d = c := kept.symm.trans replaced
        exact mem_of_mem_dropUserSuffix inStem
  · intro member
    have notSigma : c ≠ 'Σ' := by
      rintro rfl
      exact absurd small (by decide)
    have inMarks : c ∈ (dropUserSuffix name).map underscored :=
      List.mem_map.mpr ⟨c, mem_dropUserSuffix inert.notMem_userSuffix member,
        underscored_eq_self notDot notDash⟩
    exact mem_lowerAfter_of_own inert.own notSigma ((sublist_splitWordsAfter none _).subset inMarks)

theorem IsInert.notMem_synthetic {kind : EntityKind} {a : Attribute}
    (member : a ∈ kind.syntheticAttributes) : c ∉ a.name.toList := by
  have letters : kind.syntheticNames.all (·.toList.all fun d => d = '_' || d.isLower) = true := by
    cases kind <;> decide
  intro inName
  have taken : a.name ∈ kind.syntheticNames :=
    kind.map_name_syntheticAttributes ▸ List.mem_map_of_mem member
  have letter := List.all_eq_true.mp (List.all_eq_true.mp letters a.name taken) c inName
  rw [isLower_eq_false_of_lt inert.small, Bool.or_false, decide_eq_true_eq] at letter
  exact inert.notMark (by simp [letter])

end

end Naming

/-- An attribute of an accepted model has in its name just those inert characters that are in the name
of the entry behind it. -/
theorem Model.mem_name_iff {kind : EntityKind} {code : String} {d : Document} {m : Model}
    (accepted : Model.ofDocument kind code d = .ok m) {a : Attribute} (member : a ∈ m.attributes)
    {c : Char} (inert : Naming.IsInert c) : c ∈ a.name.toList ↔ c ∈ a.apiName.toList := by
  obtain ⟨_, more, found, rfl⟩ := Model.of_accepted accepted
  rcases List.mem_append.mp member with synthetic | inMore
  · rw [EntityKind.apiName_of_synthetic synthetic]
    exact iff_of_false (inert.notMem_synthetic synthetic) List.not_mem_nil
  · have image : .ok a ∈ (d.keptEntries kind).map Attribute.ofEntry :=
      found ▸ List.mem_map_of_mem inMore
    obtain ⟨e, _, ofEntry⟩ := List.mem_map.mp image
    rw [Attribute.name_of_ofEntry ofEntry, (Attribute.reflects_of_ofEntry ofEntry).apiName,
      Entry.attributeName, Naming.toList_attributeName]
    exact inert.mem_attributeChars_iff

end ConnectorSchema
