import ConnectorSchema.Proofs.DeclaredNames
import ConnectorSchema.Proofs.RepeatedNaming

/-!
How a field name spells a name in ASCII. Each word between separators is written in its own case, so
separators and capitals are all that a field name can lose (`Naming.pascal_respells`). An attribute
name has no capitals, so two of them with one field differ in underscores alone.
-/

namespace ConnectorSchema

def Text.IsAscii (s : String) : Prop := ∀ c ∈ s.toList, c.toNat < 128

instance (s : String) : Decidable (Text.IsAscii s) :=
  decidable_of_iff (s.toList.all fun c => c.toNat < 128) (by simp [Text.IsAscii])

namespace Naming

open Text

/-- A word in ASCII within a field name. -/
def respelled : List Char → List Char
  | [] => []
  | c :: rest =>
    if String.ofList ((c :: rest).map Char.toUpper) ∈ acronyms then (c :: rest).map Char.toUpper
    else c.toUpper :: rest.map Char.toLower

theorem wordChars_ascii {word : List Char} (ascii : ∀ c ∈ word, c.toNat < 128) :
    wordChars word = respelled word := by
  cases word with
  | nil => rfl
  | cons c rest =>
    obtain ⟨first, later⟩ := List.forall_mem_cons.mp ascii
    have capitals : upperAll (c :: rest) = (c :: rest).map Char.toUpper := flatMap_upper_ascii ascii
    have title : titleChars (c :: rest) = c.toUpper :: rest.map Char.toLower := by
      rw [titleChars, upper_ascii first, flatMap_lower_ascii later]
      rfl
    simp only [wordChars, capitals, title, respelled]

theorem head?_respelled (word : List Char) :
    (respelled word).head? = word.head?.map Char.toUpper := by
  cases word with
  | nil => rfl
  | cons c rest =>
    rw [respelled]
    split <;> rfl

theorem pieces_eq_splitOnP (name : List Char) : pieces name = name.splitOnP isSeparator := by
  induction name with
  | nil => rfl
  | cons c rest ih =>
    rw [pieces, List.splitOnP_cons_eq_if_modifyHead, ih]
    by_cases separates : isSeparator c
    · rw [if_pos separates, if_pos separates]
    · rw [if_neg separates, if_neg separates]
      cases split : rest.splitOnP isSeparator with
      | nil => exact absurd split (List.splitOnP_ne_nil _ _)
      | cons piece others => rfl

theorem ne_nil_of_mem_words {name word : List Char} (member : word ∈ words name) : word ≠ [] := by
  have kept := (List.mem_filter.mp member).2
  intro empty
  rw [empty] at kept
  contradiction

section

variable {name : List Char} (ascii : ∀ c ∈ name, c.toNat < 128)

include ascii

theorem pascalChars_eq_respelled : pascalChars name = (words name).flatMap respelled := by
  rw [pascalChars_eq]
  refine List.flatMap_congr fun word member => wordChars_ascii fun c inWord => ?_
  exact ascii c (mem_of_mem_words member inWord)

/-- Every character of a field name is one of the name, capitals aside. -/
theorem exists_of_mem_pascalChars {c : Char} (member : c ∈ pascalChars name) :
    ∃ d ∈ name, isSeparator d = false ∧ c.toLower = d.toLower := by
  have lowered : c.toLower ∈ (name.filter (!isSeparator ·)).map Char.toLower := by
    rw [← map_toLower_pascalChars ascii]
    exact List.mem_map_of_mem member
  obtain ⟨d, kept, same⟩ := List.mem_map.mp lowered
  obtain ⟨inName, plain⟩ := List.mem_filter.mp kept
  exact ⟨d, inName, by simpa using plain, same.symm⟩

theorem isSeparator_of_mem_pascalChars {c : Char} (member : c ∈ pascalChars name) :
    isSeparator c = false := by
  obtain ⟨d, _, plain, same⟩ := exists_of_mem_pascalChars ascii member
  rw [← isSeparator_toLower, same, isSeparator_toLower, plain]

theorem pascalChars_ascii : ∀ c ∈ pascalChars name, c.toNat < 128 := by
  intro c member
  obtain ⟨d, inName, _, same⟩ := exists_of_mem_pascalChars ascii member
  by_cases capital : c.isUpper
  · exact toNat_lt_of_isAlpha (isAlpha_of_isUpper capital)
  · rw [← toLower_eq_self capital, same]
    exact toNat_toLower_lt (ascii d inName)

theorem lowerAll_pascalChars :
    lowerAll (pascalChars name) = (lowerAll name).filter (!isSeparator ·) := by
  rw [lowerAll, lowerAll, lowerAfter_ascii (pascalChars_ascii ascii), lowerAfter_ascii ascii,
    map_toLower_pascalChars ascii, filter_map_toLower]

/-- A field name begins with the first character that is no separator, as a capital. -/
theorem head?_pascalChars :
    (pascalChars name).head? = (name.find? (!isSeparator ·)).map Char.toUpper := by
  rw [pascalChars_eq_respelled ascii, ← List.head?_filter, ← flatten_words]
  cases split : words name with
  | nil => rfl
  | cons word others =>
    have nonempty : word ≠ [] := ne_nil_of_mem_words (split ▸ List.mem_cons_self)
    obtain ⟨c, rest, rfl⟩ := List.exists_cons_of_ne_nil nonempty
    have first := head?_respelled (c :: rest)
    simp [List.head?_append, first]

end

/-- A name that has no capitals and is not split by dashes. -/
def IsSnake (name : String) : Prop := ∀ c ∈ name.toList, c ≠ '-' ∧ c.toLower = c

instance (name : String) : Decidable (IsSnake name) :=
  decidable_of_iff (name.toList.all fun c => c ≠ '-' ∧ c.toLower = c) (by simp [IsSnake])

theorem isSnake_attributeName {name : String} (ascii : IsAscii (attributeName name)) :
    IsSnake (attributeName name) := by
  intro c member
  have small := ascii c member
  rw [toList_attributeName] at member
  have kept := (mem_attributeChars member).1
  have own := kept.lower
  rw [lower_ascii small] at own
  exact ⟨kept.notDash, (List.cons.inj own).1⟩

/-- All that a name in snake case can lose is underscores. -/
theorem essence_of_isSnake {name : String} (snake : IsSnake name) :
    essence name = name.toList.filter (· ≠ '_') := by
  have lowered : essence name = name.toList.filter (!isSeparator ·) := by
    rw [essence]
    refine (List.map_congr_left fun c member => ?_).trans (List.map_id' _)
    exact (snake c (List.mem_filter.mp member).1).2
  rw [lowered]
  refine List.filter_congr fun c member => ?_
  simp [isSeparator, (snake c member).1]

/-- Two names that are told apart by their underscores and by nothing else. -/
def DifferInUnderscores (a b : String) : Prop :=
  a ≠ b ∧ a.toList.filter (· ≠ '_') = b.toList.filter (· ≠ '_')

end Naming

/-- The names that every connector of a kind has. -/
theorem EntityKind.syntheticNames_snake (kind : EntityKind) :
    ∀ name ∈ kind.syntheticNames, Text.IsAscii name ∧ Naming.IsSnake name := by
  cases kind <;> decide

theorem EntityKind.syntheticFields_eq_map (kind : EntityKind) :
    kind.syntheticFields = kind.syntheticNames.map Naming.pascal := by
  cases kind <;> rfl

theorem Entry.Refused.fieldNameTaken {names fields : List String} {e : Entry} {v : Violation}
    {field : String} (refused : e.Refused names fields v) (isTaken : v = .fieldNameTaken field) :
    e.fieldName = field ∧ e.attributeName ∉ names ∧ e.fieldName ∈ fields := by
  cases refused with
  | alone fails =>
    subst isTaken
    cases fails
  | nameTaken | noLetter => cases isTaken
  | fieldTaken _ newName _ taken => exact ⟨Violation.fieldNameTaken.inj isTaken, newName, taken⟩

/-- When a field is taken, it is that of a name which differs from the entry's in underscores
alone. -/
theorem Model.fieldNameTaken_cases {kind : EntityKind} {code : String} {d : Document}
    {name field : String}
    (failed : Model.ofDocument kind code d = .error (.entry name (.fieldNameTaken field)))
    (ascii : ∀ e ∈ d.keptEntries kind, Text.IsAscii e.attributeName) :
    ∃ (before : List Entry) (e : Entry) (after : List Entry),
      d.keptEntries kind = before ++ e :: after ∧ e.name = name ∧ e.fieldName = field
      ∧ ∃ other ∈ kind.syntheticNames ++ before.map (·.attributeName),
        Naming.pascal other = field ∧ Naming.DifferInUnderscores other e.attributeName := by
  rcases Model.ofDocument_cases kind code d with
    ⟨_, _, _, model⟩ | ⟨before, e, after, v, split, _, refused, problem⟩
  · cases model.symm.trans failed
  obtain ⟨named, isTaken⟩ := Problem.entry.inj (Except.error.inj (problem.symm.trans failed))
  obtain ⟨spelled, newName, taken⟩ := refused.fieldNameTaken isTaken
  have fields : kind.syntheticFields ++ before.map (·.fieldName)
      = (kind.syntheticNames ++ before.map (·.attributeName)).map Naming.pascal := by
    rw [kind.syntheticFields_eq_map, List.map_append, List.map_map]
    rfl
  rw [fields] at taken
  obtain ⟨other, earlier, same⟩ := List.mem_map.mp taken
  have snake : Text.IsAscii other ∧ Naming.IsSnake other := by
    rcases List.mem_append.mp earlier with synthetic | inBefore
    · exact kind.syntheticNames_snake other synthetic
    · obtain ⟨e', member, rfl⟩ := List.mem_map.mp inBefore
      have asciiName := ascii e' (by rw [split]; exact List.mem_append_left _ member)
      exact ⟨asciiName, Naming.isSnake_attributeName asciiName⟩
  have asciiName := ascii e (by simp [split])
  have letters := Naming.essence_eq_of_spelling snake.1 asciiName same
  have snakeName : Naming.IsSnake e.attributeName := Naming.isSnake_attributeName asciiName
  rw [Naming.essence_of_isSnake snake.2, Naming.essence_of_isSnake snakeName] at letters
  exact ⟨before, e, after, split, named, spelled, other, earlier, same.trans spelled,
    fun equal => newName (equal ▸ earlier), letters⟩

namespace Naming

open Text

/-- A field name has no separators, and in lower case it is the name without them; its words are
those between separators, each in its own case. So two names with one field have the same letters
and digits, and two attributes with one field differ in underscores alone. -/
theorem pascal_respells :
    (∀ s : String, IsAscii s →
      '_' ∉ (pascal s).toList ∧ '-' ∉ (pascal s).toList
      ∧ lowerAll (pascal s).toList = (lowerAll s.toList).filter (!isSeparator ·)
      ∧ (pascal s).toList
        = ((s.toList.splitOnP isSeparator).filter (!·.isEmpty)).flatMap respelled
      ∧ ((pascal s).toList.head?.any Char.isUpper
        ↔ (s.toList.find? (!isSeparator ·)).any Char.isAlpha))
    ∧ (∀ a b : String, IsAscii a → IsAscii b → pascal a = pascal b → essence a = essence b)
    ∧ ∀ (kind : EntityKind) (code : String) (d : Document) (name field : String),
      Model.ofDocument kind code d = .error (.entry name (.fieldNameTaken field)) →
      (∀ e ∈ d.keptEntries kind, IsAscii e.attributeName) →
      ∃ (before : List Entry) (e : Entry) (after : List Entry),
        d.keptEntries kind = before ++ e :: after ∧ e.name = name ∧ e.fieldName = field
        ∧ ∃ other ∈ kind.syntheticNames ++ before.map (·.attributeName),
          pascal other = field ∧ DifferInUnderscores other e.attributeName := by
  refine ⟨fun s ascii => ?_, fun a b => essence_eq_of_spelling, fun kind code d name field =>
    Model.fieldNameTaken_cases⟩
  have chars : (pascal s).toList = pascalChars s.toList := String.toList_ofList
  have words : (words s.toList) = (s.toList.splitOnP isSeparator).filter (!·.isEmpty) := by
    rw [Naming.words, pieces_eq_splitOnP]
  rw [chars]
  refine ⟨fun member => ?_, fun member => ?_, lowerAll_pascalChars ascii, ?_, ?_⟩
  · exact absurd (isSeparator_of_mem_pascalChars ascii member) (by decide)
  · exact absurd (isSeparator_of_mem_pascalChars ascii member) (by decide)
  · rw [pascalChars_eq_respelled ascii, words]
  · have letters : (fun c : Char => c.toUpper.isUpper) = Char.isAlpha := funext isUpper_toUpper
    rw [head?_pascalChars ascii, Option.any_map, letters]

/-- Two names of one host, which cannot stand in one document. -/
theorem pascal_respells_dbHost :
    (IsAscii "__db-Host" ∧ (pascal "__db-Host").toList = "DBHost".toList)
    ∧ (IsAscii "db_host" ∧ IsAscii "db__host" ∧ pascal "db_host" = pascal "db__host"
      ∧ essence "db_host" = essence "db__host")
    ∧ Model.ofDocument .source "pg"
        (.ofEntries "Postgres" [.ofControl "db.host" .string, .ofControl "db..host" .string])
      = .error (.entry "db..host" (.fieldNameTaken "DBHost"))
    ∧ ∃ other : String, pascal other = "DBHost" ∧ DifferInUnderscores other "db__host" := by
  obtain ⟨spelled, letters, taken⟩ := pascal_respells
  have ascii : IsAscii "__db-Host" ∧ IsAscii "db_host" ∧ IsAscii "db__host" := by decide
  have respells := (spelled "__db-Host" ascii.1).2.2.2.1
  have sameField : pascal "db_host" = pascal "db__host" := by decide
  set_option maxRecDepth 2000 in
  have failed : Model.ofDocument .source "pg"
      (.ofEntries "Postgres" [.ofControl "db.host" .string, .ofControl "db..host" .string])
      = .error (.entry "db..host" (.fieldNameTaken "DBHost")) := rfl
  have kept : (Document.ofEntries "Postgres" [.ofControl "db.host" .string,
      .ofControl "db..host" .string]).keptEntries .source
      = [.ofControl "db.host" .string, .ofControl "db..host" .string] := rfl
  have asciiNames : ∀ e ∈ [Entry.ofControl "db.host" .string, .ofControl "db..host" .string],
      IsAscii e.attributeName := by decide
  refine ⟨⟨ascii.1, respells.trans (by decide)⟩,
    ⟨ascii.2.1, ascii.2.2, sameField, letters _ _ ascii.2.1 ascii.2.2 sameField⟩, failed, ?_⟩
  obtain ⟨before, e, after, split, named, _, other, _, same, differ⟩ :=
    taken .source "pg" _ _ _ failed (kept ▸ asciiNames)
  have name : e.attributeName = "db__host" := by
    rw [Entry.attributeName, named]
    decide
  exact ⟨other, same, name ▸ differ⟩

end Naming

end ConnectorSchema
