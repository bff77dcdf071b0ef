import ConnectorSchema.Proofs.Identifier

/-!
Which connectors declare the same names. All files of a run belong to one package, and a connector
declares a structure, a function and a table there. Kind and ending can be read off such a name, so
that two connectors are kept apart by the spelling of their codes (`Header.disjoint_declared_iff`),
in which separators and capitals may get lost.
-/

namespace ConnectorSchema

namespace Naming

/-- The characters that a code is made of. -/
def IsCode (code : String) : Prop := ∀ c ∈ code.toList, c.isAlphanum ∨ isSeparator c

instance (code : String) : Decidable (IsCode code) :=
  decidable_of_iff (code.toList.all fun c => c.isAlphanum || isSeparator c) (by simp [IsCode])

/-- The letters and digits of a code, capitals aside. -/
def essence (code : String) : List Char := (code.toList.filter (!isSeparator ·)).map Char.toLower

/-- The words of a code, capitals aside. -/
def foldedWords (code : String) : List (List Char) := (words code.toList).map (·.map Char.toLower)

theorem IsCode.ascii {code : String} (legal : IsCode code) : ∀ c ∈ code.toList, c.toNat < 128 := by
  intro c member
  rcases legal c member with word | separator
  · exact toNat_lt_of_isAlphanum word
  · simp only [isSeparator, Bool.or_eq_true, decide_eq_true_eq] at separator
    rcases separator with rfl | rfl <;> decide

/-- A field name tells the letters of the name, whatever its capitals stand for. -/
theorem essence_eq_of_spelling {s t : String} (asciiS : ∀ c ∈ s.toList, c.toNat < 128)
    (asciiT : ∀ c ∈ t.toList, c.toNat < 128) (same : pascal s = pascal t) :
    essence s = essence t := by
  have chars : pascalChars s.toList = pascalChars t.toList := String.ofList_injective same
  rw [essence, essence, ← map_toLower_pascalChars asciiS, ← map_toLower_pascalChars asciiT, chars]

theorem essence_eq_of_pascal_eq {code code' : String} (legal : IsCode code) (legal' : IsCode code')
    (same : pascal code = pascal code') : essence code = essence code' :=
  essence_eq_of_spelling legal.ascii legal'.ascii same

/-- The spelling of a word does not depend on its capitals. -/
theorem wordChars_map_toLower {word : List Char} (ascii : ∀ c ∈ word, c.toNat < 128) :
    wordChars (word.map Char.toLower) = wordChars word := by
  have asciiLower : ∀ c ∈ word.map Char.toLower, c.toNat < 128 := by
    intro c member
    obtain ⟨d, inWord, rfl⟩ := List.mem_map.mp member
    exact toNat_toLower_lt (ascii d inWord)
  have capitals : Text.upperAll (word.map Char.toLower) = Text.upperAll word := by
    rw [Text.upperAll, Text.upperAll, flatMap_upper_ascii asciiLower, flatMap_upper_ascii ascii,
      List.map_map]
    exact List.map_congr_left fun c _ => toUpper_toLower c
  have titles : titleChars (word.map Char.toLower) = titleChars word := by
    cases word with
    | nil => rfl
    | cons c rest =>
      obtain ⟨first, later⟩ := List.forall_mem_cons.mp ascii
      obtain ⟨firstLower, laterLower⟩ := List.forall_mem_cons.mp asciiLower
      rw [List.map_cons, titleChars, titleChars, Text.upper_ascii first, Text.upper_ascii firstLower,
        flatMap_lower_ascii later, flatMap_lower_ascii laterLower, toUpper_toLower,
        List.map_map]
      refine congrArg _ (List.map_congr_left fun d _ => toLower_toLower d)
  simp only [wordChars, capitals, titles]

/-- Codes with the same words are spelled alike, however the words are written and separated. -/
theorem pascal_eq_of_foldedWords_eq {code code' : String} (legal : IsCode code)
    (legal' : IsCode code') (same : foldedWords code = foldedWords code') :
    pascal code = pascal code' := by
  have folded {s : String} (isCode : IsCode s) :
      pascalChars s.toList = (foldedWords s).flatMap wordChars := by
    rw [pascalChars_eq, foldedWords, List.flatMap_map]
    refine List.flatMap_congr fun word member => (wordChars_map_toLower fun c inWord => ?_).symm
    exact isCode.ascii c (mem_of_mem_words member inWord)
  rw [pascal, pascal, folded legal, folded legal', same]

end Naming

namespace Header

/-- The names that a connector declares in the package. -/
def declared (h : Header) : List String := [h.modelName, h.schemaFunction, h.mappingName]

/-- The kind can be read off the first letter. -/
theorem title_unique {kind kind' : EntityKind} {s t : String}
    (same : Naming.title kind.name ++ s = Naming.title kind'.name ++ t) : kind = kind' ∧ s = t := by
  have first := congrArg (fun name => name.toList.head?) same
  have kinds : kind = kind' := by
    rw [kind.title_eq, kind'.title_eq] at first
    cases kind <;> cases kind' <;> first | rfl | simp at first
  subst kinds
  exact ⟨rfl, (String.append_right_inj _).mp same⟩

/-- The ending can be read off the last letter. -/
theorem ending_unique {s t ending ending' : String}
    (isEnding : ending ∈ ["Model", "Schema", "FieldMappings"])
    (isEnding' : ending' ∈ ["Model", "Schema", "FieldMappings"])
    (same : s ++ ending = t ++ ending') : ending = ending' ∧ s = t := by
  have last := congrArg (fun name => name.toList.getLast?) same
  simp only [String.toList_append, List.getLast?_append] at last
  have endings : ending = ending' := by
    simp only [List.mem_cons, List.not_mem_nil, or_false] at isEnding isEnding'
    rcases isEnding with rfl | rfl | rfl <;> rcases isEnding' with rfl | rfl | rfl <;>
      first | rfl | simp at last
  subst endings
  exact ⟨rfl, (String.append_left_inj _).mp same⟩

theorem exists_mem_declared_iff {kind kind' : EntityKind} {code code' : String} :
    (∃ s, s ∈ (Header.of kind code).declared ∧ s ∈ (Header.of kind' code').declared)
      ↔ kind = kind' ∧ Naming.pascal code = Naming.pascal code' := by
  constructor
  · rintro ⟨s, here, there⟩
    obtain ⟨ending, isEnding, rfl⟩ := identifiers_of.mp here
    obtain ⟨ending', isEnding', same⟩ := identifiers_of.mp there
    exact title_unique (ending_unique isEnding isEnding' same).2
  · rintro ⟨rfl, spelling⟩
    have first {c : String} : (Header.of kind c).modelName ∈ (Header.of kind c).declared :=
      List.mem_cons_self
    have same : (Header.of kind code).modelName = (Header.of kind code').modelName := by
      simp only [Header.of, spelling]
    exact ⟨_, first, same ▸ first⟩

/-- Two connectors declare different names exactly when their kinds differ or their codes are spelled
differently; otherwise they declare the very same ones. Codes of the same spelling have the same
letters and digits, capitals aside, and codes with the same words, capitals aside, have the same
spelling. -/
theorem disjoint_declared_iff {kind kind' : EntityKind} {code code' : String}
    (legal : Naming.IsCode code) (legal' : Naming.IsCode code') :
    ((Header.of kind code).declared.Disjoint (Header.of kind' code').declared
        ↔ kind ≠ kind' ∨ Naming.pascal code ≠ Naming.pascal code')
      ∧ (¬ (Header.of kind code).declared.Disjoint (Header.of kind' code').declared →
        (Header.of kind code).declared = (Header.of kind' code').declared)
      ∧ (Naming.essence code ≠ Naming.essence code' → Naming.pascal code ≠ Naming.pascal code')
      ∧ (Naming.foldedWords code = Naming.foldedWords code' →
        Naming.pascal code = Naming.pascal code') := by
  have disjoint : (Header.of kind code).declared.Disjoint (Header.of kind' code').declared
      ↔ ¬ (kind = kind' ∧ Naming.pascal code = Naming.pascal code') := by
    rw [← exists_mem_declared_iff, not_exists]
    exact ⟨fun apart s both => apart both.1 both.2, fun apart s here there => apart s ⟨here, there⟩⟩
  refine ⟨disjoint.trans not_and_or, fun meet => ?_, fun letters spelling => ?_,
    Naming.pascal_eq_of_foldedWords_eq legal legal'⟩
  · obtain ⟨rfl, spelling⟩ := Decidable.not_not.mp (mt disjoint.mpr meet)
    simp only [declared, Header.of, spelling]
  · exact letters (Naming.essence_eq_of_pascal_eq legal legal' spelling)

/-- The acronym within the one code keeps it apart from the other, which has the same letters. -/
theorem disjoint_declared_iff_acronym :
    Naming.IsCode "db-2" ∧ Naming.IsCode "db2"
      ∧ (Header.of .source "db-2").declared.Disjoint (Header.of .source "db2").declared := by
  have legal : Naming.IsCode "db-2" := by decide
  have legal' : Naming.IsCode "db2" := by decide
  exact ⟨legal, legal', (disjoint_declared_iff legal legal').1.mpr (Or.inr (by decide))⟩

/-- Two connectors of a kind whose codes differ in a separator alone declare the same names. -/
theorem declared_clash_separator :
    Naming.IsCode "sql-server" ∧ Naming.IsCode "sql_server" ∧ "sql-server" ≠ "sql_server"
      ∧ ¬ (Header.of .source "sql-server").declared.Disjoint
        (Header.of .source "sql_server").declared := by
  refine ⟨by decide, by decide, by decide, fun apart => ?_⟩
  obtain ⟨s, here, there⟩ : ∃ s, s ∈ (Header.of .source "sql-server").declared
      ∧ s ∈ (Header.of .source "sql_server").declared :=
    exists_mem_declared_iff.mpr ⟨rfl, by decide⟩
  exact apart here there

end Header

end ConnectorSchema
