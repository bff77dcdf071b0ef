import ConnectorSchema.Proofs.FieldName

/-!
Attribute names by position. For a backend name over ASCII letters, digits, dots, dashes and
underscores, each character that is left of it when its user suffix is gone adds its own part to the
attribute name, and which part that is depends on its two neighbours only (`attributeName_positional`).
-/

namespace ConnectorSchema.Naming

open Text

/-- What a name is called without its user suffix. -/
inductive IsStem (name : List Char) : List Char → Prop where
  | defined {t} : name = t ++ ".user.defined".toList → IsStem name t
  | displayed {t} : name = t ++ ".user.displayed".toList → IsStem name t
  | whole : ¬ ".user.defined".toList <:+ name → ¬ ".user.displayed".toList <:+ name →
      IsStem name name

/-- Whether a word begins at this place by the case of the letters around it. -/
def breaksAt (t : List Char) (i : Nat) : Bool :=
  0 < i && t[i]?.any Char.isUpper
    && (t[i - 1]?.any Char.isLower || t[i - 1]?.any Char.isUpper && t[i + 1]?.any Char.isLower)

/-- What the character at this place is written as. -/
def writtenAt (t : List Char) (i : Nat) : List Char :=
  match t[i]? with
  | none => []
  | some c =>
    if c ∈ ['.', '-', '_'] then ['_']
    else if breaksAt t i then ['_', c.toLower] else [c.toLower]

theorem dropSuffix_append (t suffix : List Char) : dropSuffix (t ++ suffix) suffix = t := by
  have ends : suffix.isSuffixOf (t ++ suffix) :=
    List.isSuffixOf_iff_suffix.mpr (List.suffix_append t suffix)
  rw [dropSuffix, if_pos ends, List.length_append, Nat.add_sub_cancel, List.take_left']
  rfl

theorem dropUserSuffix_append (t : List Char) {suffix : String} (listed : suffix ∈ userSuffixes) :
    dropUserSuffix (t ++ suffix.toList) = t := by
  -- neither suffix ends the other, so the first that is found is the only one
  have apart : ∀ a ∈ userSuffixes, ∀ b ∈ userSuffixes, a.toList <:+ b.toList → a = b := by
    decide
  have only : ∀ other ∈ userSuffixes, other.toList.isSuffixOf (t ++ suffix.toList) →
      other = suffix := by
    intro other listedOther ends
    have ends := List.isSuffixOf_iff_suffix.mp ends
    rcases List.suffix_or_suffix_of_suffix ends (List.suffix_append t suffix.toList) with
      within | within
    · exact apart other listedOther suffix listed within
    · exact (apart suffix listed other listedOther within).symm
  have found : userSuffixes.find? (fun other => other.toList.isSuffixOf (t ++ suffix.toList))
      = some suffix := by
    cases look : userSuffixes.find? fun other => other.toList.isSuffixOf (t ++ suffix.toList) with
    | none =>
      refine absurd ?_ (List.find?_eq_none.mp look suffix listed)
      exact List.isSuffixOf_iff_suffix.mpr (List.suffix_append t suffix.toList)
    | some other =>
      have ends : other.toList.isSuffixOf (t ++ suffix.toList) :=
        List.find?_some (p := fun other : String => other.toList.isSuffixOf (t ++ suffix.toList)) look
      rw [only other (List.mem_of_find?_eq_some look) ends]
  simp only [dropUserSuffix, found, dropSuffix_append]

theorem isStem_iff {name t : List Char} : IsStem name t ↔ t = dropUserSuffix name := by
  have defined : ".user.defined" ∈ userSuffixes := by decide
  have displayed : ".user.displayed" ∈ userSuffixes := by decide
  have whole (notDefined : ¬ ".user.defined".toList <:+ name)
      (notDisplayed : ¬ ".user.displayed".toList <:+ name) : dropUserSuffix name = name := by
    refine dropUserSuffix_eq_self fun suffix listed => ?_
    simp only [userSuffixes, List.mem_cons, List.not_mem_nil, or_false] at listed
    rcases listed with rfl | rfl
    · exact notDefined
    · exact notDisplayed
  constructor
  · rintro (rfl | rfl | ⟨notDefined, notDisplayed⟩)
    · exact (dropUserSuffix_append t defined).symm
    · exact (dropUserSuffix_append t displayed).symm
    · exact (whole notDefined notDisplayed).symm
  · rintro rfl
    by_cases isDefined : ".user.defined".toList <:+ name
    · obtain ⟨stem, rfl⟩ := isDefined
      rw [dropUserSuffix_append stem defined]
      exact IsStem.defined rfl
    by_cases isDisplayed : ".user.displayed".toList <:+ name
    · obtain ⟨stem, rfl⟩ := isDisplayed
      rw [dropUserSuffix_append stem displayed]
      exact IsStem.displayed rfl
    rw [whole isDefined isDisplayed]
    exact IsStem.whole isDefined isDisplayed

/-- The rule at one place, by the character and its neighbours. -/
theorem breaksAt_append (before : List Char) (c : Char) (rest : List Char) :
    breaksAt (before ++ c :: rest) before.length = (c.isUpper
      && before.getLast?.any fun b => b.isLower || (b.isUpper && rest.head?.any Char.isLower)) := by
  have here : (before ++ c :: rest)[before.length]? = some c := by simp
  have next : (before ++ c :: rest)[before.length + 1]? = rest.head? := by
    rw [List.getElem?_append_right (by omega), List.head?_eq_getElem?]
    simp
  rw [breaksAt, here, next]
  rcases List.eq_nil_or_concat before with rfl | ⟨shorter, b, rfl⟩
  · simp
  · simp only [List.concat_eq_append]
    have previous : (shorter ++ [b] ++ c :: rest)[(shorter ++ [b]).length - 1]? = some b := by simp
    rw [previous, List.getLast?_concat]
    simp

/-- Dots, dashes and underscores are of no case, so no test for a case tells them apart. -/
theorem underscored_congr {p q : Char → Bool} {c : Char} (same : p c = q c)
    (marks : p '_' = false ∧ q '.' = false ∧ q '-' = false) : p (underscored c) = q c := by
  obtain ⟨underscore, dot, dash⟩ := marks
  by_cases replaced : c = '.' ∨ c = '-'
  · rw [underscored, if_pos replaced, underscore]
    rcases replaced with rfl | rfl
    · exact dot.symm
    · exact dash.symm
  · rw [underscored, if_neg replaced, same]

theorem isUpper_underscored {c : Char} (ascii : c.toNat < 128) :
    isUpper (underscored c) = c.isUpper :=
  underscored_congr (isUpper_ascii ascii) (by decide)

theorem isLower_underscored {c : Char} (ascii : c.toNat < 128) :
    isLower (underscored c) = c.isLower :=
  underscored_congr (isLower_ascii ascii) (by decide)

theorem any_map_congr {p q : Char → Bool} {f : Char → Char} {o : Option Char}
    (same : ∀ c, o = some c → p (f c) = q c) : (o.map f).any p = o.any q := by
  cases o with
  | none => rfl
  | some c => exact same c rfl

/-- A word begins at a place of the name just where one begins at a place of its underscored form. -/
theorem beginsWord_underscored {before : List Char} {c : Char} {rest : List Char}
    (ascii : ∀ d ∈ before ++ c :: rest, d.toNat < 128) :
    beginsWord (before.getLast?.map underscored) (underscored c) (rest.map underscored).head?
      = breaksAt (before ++ c :: rest) before.length := by
  have asciiHere : c.toNat < 128 := ascii c (by simp)
  rw [breaksAt_append, beginsWord, isUpper_underscored asciiHere, List.head?_map]
  congr 1
  refine any_map_congr fun b last => ?_
  have asciiBefore : b.toNat < 128 :=
    ascii b (List.mem_append_left _ (List.mem_of_getLast? last))
  rw [isUpper_underscored asciiBefore, isLower_underscored asciiBefore]
  congr 2
  refine any_map_congr fun n first => ?_
  exact isLower_underscored (ascii n (by simp [List.mem_of_head? first]))

theorem underscored_of_mark {c : Char} (mark : c ∈ ['.', '-', '_']) :
    underscored c = '_' ∧ c.isUpper = false ∧ c.isAlphanum = false ∧ c.toNat < 128 := by
  simp only [List.mem_cons, List.not_mem_nil, or_false] at mark
  rcases mark with rfl | rfl | rfl <;> decide

theorem breaksAt_of_mark {before : List Char} {c : Char} {rest : List Char}
    (mark : c ∈ ['.', '-', '_']) : breaksAt (before ++ c :: rest) before.length = false := by
  rw [breaksAt_append, (underscored_of_mark mark).2.1, Bool.false_and]

/-- The words are separated and put into lower case place by place. -/
theorem written_eq (before : List Char) {rest : List Char} (ascii : ∀ c ∈ before ++ rest, c.toNat < 128) :
    (splitWordsAfter (before.getLast?.map underscored) (rest.map underscored)).map Char.toLower
      = (List.range' before.length rest.length).flatMap (writtenAt (before ++ rest)) := by
  -- what was passed grows with each step, so a place is counted from the beginning of the name
  induction rest generalizing before with
  | nil => rfl
  | cons c rest ih =>
    have shift : before ++ c :: rest = before ++ [c] ++ rest := by simp
    have later := ih (before ++ [c]) (shift ▸ ascii)
    rw [List.getLast?_concat, List.length_append, List.length_singleton, ← shift,
      Option.map_some] at later
    have here : (before ++ c :: rest)[before.length]? = some c := by simp
    rw [List.length_cons, List.range'_succ, List.flatMap_cons, ← later, List.map_cons,
      splitWordsAfter, beginsWord_underscored ascii, writtenAt, here]
    by_cases mark : c ∈ ['.', '-', '_']
    · rw [breaksAt_of_mark mark, (underscored_of_mark mark).1]
      simp only [mark, if_true, Bool.false_eq_true, if_false, List.map_cons]
      rfl
    · have same : underscored c = c := by
        simp only [List.mem_cons, List.not_mem_nil, or_false, not_or] at mark
        exact if_neg (not_or.mpr ⟨mark.1, mark.2.1⟩)
      rw [same]
      simp only [mark, if_false]
      split <;> rfl

theorem toLower_of_isAlphanum {c : Char} (word : c.isAlphanum) :
    c.toLower.isLower ∨ c.toLower.isDigit := by
  simp only [Char.isAlphanum, Bool.or_eq_true] at word
  rcases word with letter | digit
  · exact Or.inl ((isLower_toLower c).trans letter)
  · by_cases capital : c.isUpper
    · have letter : c.isAlpha := isAlpha_of_isUpper capital
      exact Or.inl ((isLower_toLower c).trans letter)
    · rw [toLower_eq_self capital]
      exact Or.inr digit

theorem isBreak_iff {c : Char} : isBreak c ↔ c ∈ ['.', '-', '_'] := by
  simp [isBreak, isSeparator, or_comm]

theorem isBreak_of_isAlphanum {c : Char} (word : c.isAlphanum) : isBreak c = false := by
  refine Bool.eq_false_iff.mpr fun breaks => ?_
  rw [(underscored_of_mark (isBreak_iff.mp breaks)).2.2.1] at word
  contradiction

section

variable {name : List Char} (legal : ∀ c ∈ name, c.isAlphanum ∨ c ∈ ['.', '-', '_'])

include legal

theorem ascii_of_legal : ∀ c ∈ name, c.toNat < 128 := by
  intro c member
  rcases legal c member with word | mark
  · exact toNat_lt_of_isAlphanum word
  · exact (underscored_of_mark mark).2.2.2

theorem attributeChars_written : attributeChars name
    = (List.range (dropUserSuffix name).length).flatMap (writtenAt (dropUserSuffix name)) := by
  have ascii := ascii_of_legal legal
  rw [attributeChars_ascii ascii, List.range_eq_range']
  exact written_eq [] fun c member => ascii c (mem_of_mem_dropUserSuffix member)

theorem mem_attributeChars_of_legal {c : Char} (member : c ∈ attributeChars name) :
    c.isLower ∨ c.isDigit ∨ c = '_' := by
  rw [attributeChars_written legal] at member
  obtain ⟨i, _, written⟩ := List.mem_flatMap.mp member
  unfold writtenAt at written
  cases here : (dropUserSuffix name)[i]? with
  | none => simp [here] at written
  | some d =>
    have inName : d ∈ name := mem_of_mem_dropUserSuffix (List.mem_of_getElem? here)
    have parts : c = '_' ∨ d ∉ ['.', '-', '_'] ∧ c = d.toLower := by
      simp only [here] at written
      split at written
      · exact Or.inl (List.mem_singleton.mp written)
      · rename_i plain
        split at written
        · simp only [List.mem_cons, List.not_mem_nil, or_false] at written
          exact written.imp_right fun same => ⟨plain, same⟩
        · exact Or.inr ⟨plain, List.mem_singleton.mp written⟩
    rcases parts with mark | ⟨plain, rfl⟩
    · exact Or.inr (Or.inr mark)
    · have word := (legal d inName).resolve_right plain
      exact (toLower_of_isAlphanum word).imp_right Or.inl

/-- Letters and digits are kept, but for the case of the letters. -/
theorem filter_isAlphanum_attributeChars : (attributeChars name).filter Char.isAlphanum
    = ((dropUserSuffix name).filter Char.isAlphanum).map Char.toLower := by
  have other {c : Char} (word : c.isAlphanum) : c.isAlphanum = !isSeparator c := by
    rw [word, (Bool.or_eq_false_iff.mp (isBreak_of_isAlphanum word)).2]
    rfl
  have written : ∀ c ∈ attributeChars name, c.isAlphanum = !isSeparator c := by
    intro c member
    rcases mem_attributeChars_of_legal legal member with small | digit | rfl
    · exact other (by simp [Char.isAlphanum, isAlpha_of_isLower small])
    · exact other (by simp [Char.isAlphanum, digit])
    · rfl
  have kept : ∀ c ∈ dropUserSuffix name, c.isAlphanum = !isBreak c := by
    intro c member
    rcases legal c (mem_of_mem_dropUserSuffix member) with word | mark
    · rw [word, isBreak_of_isAlphanum word]
      rfl
    · rw [(underscored_of_mark mark).2.2.1, isBreak_iff.mpr mark]
      rfl
  rw [List.filter_congr written, filter_attributeChars (ascii_of_legal legal),
    List.filter_congr kept]

end

theorem isAlpha_around_break {t : List Char} {i : Nat} (breaks : breaksAt t i) :
    ∃ p c, t[i - 1]? = some p ∧ t[i]? = some c ∧ p.isAlpha ∧ c.isAlpha := by
  simp only [breaksAt, Bool.and_eq_true, Bool.or_eq_true, Option.any_eq_true] at breaks
  obtain ⟨⟨_, c, here, capital⟩, before⟩ := breaks
  have letter : c.isAlpha := isAlpha_of_isUpper capital
  rcases before with ⟨p, previous, small⟩ | ⟨⟨p, previous, large⟩, _⟩
  · exact ⟨p, c, previous, here, isAlpha_of_isLower small, letter⟩
  · exact ⟨p, c, previous, here, isAlpha_of_isUpper large, letter⟩

theorem attributeName_positional {name : String}
    (legal : ∀ c ∈ name.toList, c.isAlphanum ∨ c ∈ ['.', '-', '_']) :
    ∃ t, (∀ s, IsStem name.toList s ↔ s = t)
      ∧ (attributeName name).toList = (List.range t.length).flatMap (writtenAt t)
      ∧ (∀ c ∈ (attributeName name).toList, c.isLower ∨ c.isDigit ∨ c = '_')
      ∧ (attributeName name).toList.filter Char.isAlphanum
        = (t.filter Char.isAlphanum).map Char.toLower
      ∧ ∀ i, breaksAt t i →
        ∃ p c, t[i - 1]? = some p ∧ t[i]? = some c ∧ p.isAlpha ∧ c.isAlpha := by
  rw [toList_attributeName]
  exact ⟨dropUserSuffix name.toList, fun _ => isStem_iff, attributeChars_written legal,
    fun _ => mem_attributeChars_of_legal legal, filter_isAlphanum_attributeChars legal,
    fun _ => isAlpha_around_break⟩

theorem attributeName_positional_sslMode :
    (∀ c ∈ "db-2.sslModeURL.user.defined".toList, c.isAlphanum ∨ c ∈ ['.', '-', '_'])
    ∧ (attributeName "db-2.sslModeURL.user.defined").toList
      = (List.range 15).flatMap (writtenAt "db-2.sslModeURL".toList) := by
  have checked : "db-2.sslModeURL.user.defined".toList.all
      (fun c => c.isAlphanum || ['.', '-', '_'].elem c) := by decide
  have legal : ∀ c ∈ "db-2.sslModeURL.user.defined".toList,
      c.isAlphanum ∨ c ∈ ['.', '-', '_'] := by
    intro c member
    simpa using List.all_eq_true.mp checked c member
  obtain ⟨t, stems, positions, _⟩ := attributeName_positional legal
  have stem : IsStem "db-2.sslModeURL.user.defined".toList "db-2.sslModeURL".toList :=
    IsStem.defined (by decide)
  obtain rfl : "db-2.sslModeURL".toList = t := (stems _).mp stem
  exact ⟨legal, positions⟩

end ConnectorSchema.Naming
