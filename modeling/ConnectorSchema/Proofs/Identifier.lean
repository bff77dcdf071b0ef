import ConnectorSchema.Proofs.Acceptance
import ConnectorSchema.Proofs.FieldName

/-!
Which models have identifiers for names. The first letter is always there, but nothing looks at the
characters behind it, so the rest is as good as the code and the names of the entries are
(`Model.identifiers_legal_iff`).
-/

namespace ConnectorSchema

theorem exists_cons_of_startsWithLetter {s : String} (letter : startsWithLetter s) :
    ∃ c rest, s.toList = c :: rest ∧ c.isAlpha := by
  unfold startsWithLetter at letter
  cases split : s.toList with
  | nil => simp [split] at letter
  | cons c rest => exact ⟨c, rest, rfl, by simpa [split] using letter⟩

theorem startsWithLetter_append {s : String} (letter : startsWithLetter s) (t : String) :
    startsWithLetter (s ++ t) := by
  obtain ⟨c, rest, split, alpha⟩ := exists_cons_of_startsWithLetter letter
  simp [startsWithLetter, split, alpha]

namespace Go

/-- What counts as a letter and as a digit. Beyond ASCII this is for Unicode to say. -/
structure Alphabet where
  letter : Char → Bool
  digit : Char → Bool
  letter_ascii : ∀ c, c.toNat < 128 → letter c = c.isAlpha
  digit_ascii : ∀ c, c.toNat < 128 → digit c = c.isDigit

namespace Alphabet

/-- The alphabet without any letters beyond ASCII. -/
def ascii : Alphabet := ⟨Char.isAlpha, Char.isDigit, fun _ _ => rfl, fun _ _ => rfl⟩

variable (g : Alphabet)

/-- Whether a character may stand in an identifier. -/
def Continues (c : Char) : Prop := c = '_' ∨ g.letter c ∨ g.digit c

/-- A letter followed by letters, digits and underscores. -/
def IsIdentifier (s : String) : Prop :=
  ∃ c rest, s.toList = c :: rest ∧ g.letter c ∧ ∀ d ∈ rest, g.Continues d

/-- Whether the words of a name may stand in an identifier, spelled as in a field name. -/
def Spells (name : String) : Prop :=
  ∀ word ∈ Naming.words name.toList, ∀ c ∈ Naming.wordChars word, g.Continues c

variable {g}

theorem isIdentifier_iff {s : String} (letter : startsWithLetter s) :
    g.IsIdentifier s ↔ ∀ c ∈ s.toList, g.Continues c := by
  obtain ⟨c, rest, split, alpha⟩ := exists_cons_of_startsWithLetter letter
  have first : g.letter c := by rw [g.letter_ascii c (toNat_lt_of_isAlpha alpha), alpha]
  constructor
  · rintro ⟨_, _, same, _, goesOn⟩ d member
    rw [split] at same member
    obtain ⟨rfl, rfl⟩ := List.cons.inj same
    rcases List.mem_cons.mp member with rfl | later
    · exact Or.inr (Or.inl first)
    · exact goesOn d later
  · intro all
    refine ⟨c, rest, split, first, fun d later => all d ?_⟩
    rw [split]
    exact List.mem_cons_of_mem _ later

theorem continues_ascii {c : Char} (ascii : c.toNat < 128) :
    g.Continues c ↔ c = '_' ∨ c.isAlphanum := by
  simp [Continues, g.letter_ascii c ascii, g.digit_ascii c ascii, Char.isAlphanum]

theorem continues_of_isAlphanum {c : Char} (word : c.isAlphanum) : g.Continues c :=
  (continues_ascii (toNat_lt_of_isAlphanum word)).mpr (Or.inr word)

/-- Only ASCII letters change here, and they stay letters. -/
theorem continues_toLower {c : Char} : g.Continues c.toLower ↔ g.Continues c := by
  by_cases capital : c.isUpper
  · have alpha : c.isAlpha := isAlpha_of_isUpper capital
    have lowered := isAlpha_toLower alpha
    have both : c.toLower.isAlphanum ∧ c.isAlphanum := by simp [Char.isAlphanum, alpha, lowered]
    exact ⟨fun _ => continues_of_isAlphanum both.2, fun _ => continues_of_isAlphanum both.1⟩
  · rw [toLower_eq_self capital]

theorem continues_congr {s t : List Char} (same : s.map Char.toLower = t.map Char.toLower) :
    (∀ c ∈ s, g.Continues c) ↔ ∀ c ∈ t, g.Continues c := by
  have lowered (u : List Char) :
      (∀ c ∈ u, g.Continues c) ↔ ∀ c ∈ u.map Char.toLower, g.Continues c := by
    simp [continues_toLower]
  rw [lowered s, lowered t, same]

theorem spells_iff {name : String} :
    g.Spells name ↔ ∀ c ∈ (Naming.pascal name).toList, g.Continues c := by
  simp only [Naming.pascal, String.toList_ofList, Naming.pascalChars_eq, List.mem_flatMap, Spells]
  constructor
  · rintro spelled c ⟨word, inName, inWord⟩
    exact spelled word inName c inWord
  · exact fun all word inName c inWord => all c ⟨word, inName, inWord⟩

theorem continues_filter {breaks : Char → Bool} (underscore : breaks '_' = true) {cs : List Char}
    (ascii : ∀ c ∈ cs, c.toNat < 128) :
    (∀ c ∈ cs.filter (!breaks ·), g.Continues c) ↔ ∀ c ∈ cs, c.isAlphanum ∨ breaks c := by
  have words : ∀ c ∈ cs, breaks c = false → (g.Continues c ↔ c.isAlphanum) := by
    intro c member other
    have notUnderscore : c ≠ '_' := fun same => by
      rw [same, underscore] at other
      contradiction
    simp [continues_ascii (ascii c member), notUnderscore]
  constructor
  · intro all c member
    cases here : breaks c with
    | true => exact Or.inr rfl
    | false =>
      have kept := all c (List.mem_filter.mpr ⟨member, by rw [here]; rfl⟩)
      exact Or.inl ((words c member here).mp kept)
  · intro all c kept
    obtain ⟨member, other⟩ := List.mem_filter.mp kept
    have here : breaks c = false := by simpa using other
    rcases all c member with word | separator
    · exact (words c member here).mpr word
    · rw [here] at separator
      contradiction

/-- A code in ASCII must consist of letters, digits and separators. -/
theorem spells_code_ascii {code : String} (ascii : ∀ c ∈ code.toList, c.toNat < 128) :
    g.Spells code ↔ ∀ c ∈ code.toList, c.isAlphanum ∨ Naming.isSeparator c := by
  rw [spells_iff, Naming.pascal, String.toList_ofList,
    continues_congr (Naming.map_toLower_pascalChars ascii), continues_filter rfl ascii]

/-- The name of an entry in ASCII may have dots besides, and its user suffix does not matter. -/
theorem spells_name_ascii {name : String} (ascii : ∀ c ∈ name.toList, c.toNat < 128) :
    g.Spells (Naming.attributeName name) ↔
      ∀ c ∈ Naming.dropUserSuffix name.toList, c.isAlphanum ∨ Naming.isBreak c := by
  have asciiStem : ∀ c ∈ Naming.dropUserSuffix name.toList, c.toNat < 128 :=
    fun c member => ascii c (Naming.mem_of_mem_dropUserSuffix member)
  rw [spells_iff, Naming.pascal, Naming.attributeName, String.toList_ofList, String.toList_ofList,
    continues_congr (Naming.map_toLower_fieldChars ascii), continues_filter rfl asciiStem]

end Alphabet

end Go

/-- The names that a model declares in the generated file. -/
def Model.identifiers (m : Model) : List String :=
  [m.header.modelName, m.header.schemaFunction, m.header.mappingName]
    ++ m.attributes.map (·.fieldName)

theorem fieldNames_of_ofEntry {entries : List Entry} {attributes : List Attribute}
    (found : entries.map Attribute.ofEntry = attributes.map .ok) :
    attributes.map (·.fieldName) = entries.map (·.fieldName) := by
  induction entries generalizing attributes with
  | nil => rw [List.map_eq_nil_iff.mp found.symm]; rfl
  | cons e rest ih =>
    cases attributes with
    | nil => simp at found
    | cons a attributes =>
      obtain ⟨first, later⟩ := List.cons.inj found
      rw [List.map_cons, List.map_cons, Attribute.fieldName_of_ofEntry first, ih later]

theorem Header.identifiers_of {kind : EntityKind} {code s : String} :
    s ∈ [(Header.of kind code).modelName, (Header.of kind code).schemaFunction,
        (Header.of kind code).mappingName] ↔
      ∃ ending ∈ ["Model", "Schema", "FieldMappings"],
        s = Naming.title kind.name ++ Naming.pascal code ++ ending := by
  simp [Header.of]

/-- The models of documents have these names. -/
theorem Model.identifiers_of_ofDocument {kind : EntityKind} {code : String} {d : Document}
    {m : Model} (accepted : Model.ofDocument kind code d = .ok m) {s : String} :
    s ∈ m.identifiers ↔
      (∃ ending ∈ ["Model", "Schema", "FieldMappings"],
        s = Naming.title kind.name ++ Naming.pascal code ++ ending)
      ∨ s ∈ kind.syntheticFields ∨ ∃ e ∈ d.keptEntries kind, s = e.fieldName := by
  obtain ⟨_, more, found, rfl⟩ := Model.of_accepted accepted
  have fields := fieldNames_of_ofEntry found
  rw [identifiers, List.mem_append, Document.model, Header.identifiers_of, List.map_append, fields]
  simp [← kind.map_fieldName_syntheticAttributes, eq_comm]

theorem EntityKind.title_eq (kind : EntityKind) :
    Naming.title kind.name = match kind with
      | .source => "Source"
      | .destination => "Destination"
      | .transform => "Transform" := by
  cases kind <;> decide

theorem Model.startsWithLetter_of_mem_identifiers {kind : EntityKind} {code : String} {d : Document}
    {m : Model} (accepted : Model.ofDocument kind code d = .ok m) {s : String}
    (member : s ∈ m.identifiers) : startsWithLetter s := by
  rcases (identifiers_of_ofDocument accepted).mp member with
    ⟨ending, _, rfl⟩ | synthetic | ⟨e, kept, rfl⟩
  · have titled : startsWithLetter (Naming.title kind.name) := by
      rw [kind.title_eq]
      cases kind <;> decide
    exact startsWithLetter_append (startsWithLetter_append titled _) _
  · have all : ∀ s ∈ kind.syntheticFields, startsWithLetter s := by
      cases kind <;> decide
    exact all s synthetic
  · exact startsWithLetter_iff.mpr ((Model.of_accepted accepted).1.letters e kept)

/-- What is put around the code is made of letters alone. -/
theorem Header.continues_iff (g : Go.Alphabet) (kind : EntityKind) (code : String) {ending : String}
    (isEnding : ending ∈ ["Model", "Schema", "FieldMappings"]) :
    (∀ c ∈ (Naming.title kind.name ++ Naming.pascal code ++ ending).toList, g.Continues c)
      ↔ g.Spells code := by
  have titled : (Naming.title kind.name).toList.all Char.isAlphanum := by
    rw [kind.title_eq]
    cases kind <;> decide
  have ended : ∀ ending ∈ ["Model", "Schema", "FieldMappings"],
      ending.toList.all Char.isAlphanum := by decide
  rw [Go.Alphabet.spells_iff]
  constructor
  · exact fun all c inCode => all c (by simp [inCode])
  · intro spelled c member
    simp only [String.toList_append, List.mem_append] at member
    rcases member with (inTitle | inCode) | inEnding
    · exact Go.Alphabet.continues_of_isAlphanum (List.all_eq_true.mp titled c inTitle)
    · exact spelled c inCode
    · have word := List.all_eq_true.mp (ended ending isEnding) c inEnding
      exact Go.Alphabet.continues_of_isAlphanum word

theorem Model.identifiers_legal_iff_spelled (g : Go.Alphabet) {kind : EntityKind} {code : String}
    {d : Document} {m : Model} (accepted : Model.ofDocument kind code d = .ok m) :
    (∀ s ∈ m.identifiers, g.IsIdentifier s)
      ↔ g.Spells code ∧ ∀ e ∈ d.keptEntries kind, g.Spells e.attributeName := by
  have legal : (∀ s ∈ m.identifiers, g.IsIdentifier s)
      ↔ ∀ s ∈ m.identifiers, ∀ c ∈ s.toList, g.Continues c :=
    forall₂_congr fun s member =>
      Go.Alphabet.isIdentifier_iff (startsWithLetter_of_mem_identifiers accepted member)
  rw [legal]
  constructor
  · intro all
    refine ⟨?_, fun e kept => ?_⟩
    · refine (Header.continues_iff g kind code List.mem_cons_self).mp (all _ ?_)
      exact (identifiers_of_ofDocument accepted).mpr (Or.inl ⟨_, List.mem_cons_self, rfl⟩)
    · refine Go.Alphabet.spells_iff.mpr (all _ ?_)
      exact (identifiers_of_ofDocument accepted).mpr (Or.inr (Or.inr ⟨e, kept, rfl⟩))
  · rintro ⟨spelledCode, spelledNames⟩ s member
    rcases (identifiers_of_ofDocument accepted).mp member with
      ⟨ending, isEnding, rfl⟩ | synthetic | ⟨e, kept, rfl⟩
    · exact (Header.continues_iff g kind code isEnding).mpr spelledCode
    · have all : ∀ s ∈ kind.syntheticFields, s.toList.all Char.isAlphanum := by
        cases kind <;> decide
      exact fun c inName =>
        Go.Alphabet.continues_of_isAlphanum (List.all_eq_true.mp (all s synthetic) c inName)
    · exact Go.Alphabet.spells_iff.mp (spelledNames e kept)

/-- All names of an accepted model begin with a letter. Whether they go on as identifiers do depends
on the code and the names of the entries. For names in ASCII these must consist of letters, digits and
the characters between words. -/
theorem Model.identifiers_legal_iff (g : Go.Alphabet) {kind : EntityKind} {code : String}
    {d : Document} {m : Model} (accepted : Model.ofDocument kind code d = .ok m) :
    (∀ s ∈ m.identifiers, startsWithLetter s)
      ∧ ((∀ s ∈ m.identifiers, g.IsIdentifier s)
        ↔ g.Spells code ∧ ∀ e ∈ d.keptEntries kind, g.Spells e.attributeName)
      ∧ ((∀ c ∈ code.toList, c.toNat < 128) →
        (∀ e ∈ d.keptEntries kind, ∀ c ∈ e.name.toList, c.toNat < 128) →
        ((∀ s ∈ m.identifiers, g.IsIdentifier s)
          ↔ (∀ c ∈ code.toList, c.isAlphanum ∨ Naming.isSeparator c)
            ∧ ∀ e ∈ d.keptEntries kind, ∀ c ∈ Naming.dropUserSuffix e.name.toList,
              c.isAlphanum ∨ Naming.isBreak c)) := by
  have legal := identifiers_legal_iff_spelled g accepted
  refine ⟨fun s member => startsWithLetter_of_mem_identifiers accepted member, legal,
    fun asciiCode asciiNames => ?_⟩
  rw [legal, Go.Alphabet.spells_code_ascii asciiCode]
  refine and_congr_right fun _ => forall₂_congr fun e kept => ?_
  exact Go.Alphabet.spells_name_ascii (asciiNames e kept)

theorem Entry.ofControl_converts (name : String) : (Entry.ofControl name .string).Converts :=
  converts_of_isOk rfl

/-- A single text field is accepted when its names are new and the field begins with a letter. -/
theorem Model.ofDocument_text {kind : EntityKind} (code displayName : String) {name : String}
    (kept : kind.keeps (.ofControl name .string))
    (newName : (Entry.ofControl name .string).attributeName ∉ kind.syntheticNames)
    (letter : startsWithLetter (Entry.ofControl name .string).fieldName)
    (newField : (Entry.ofControl name .string).fieldName ∉ kind.syntheticFields) :
    ∃ m, Model.ofDocument kind code (.ofEntries displayName [.ofControl name .string]) = .ok m := by
  have user : (Document.ofEntries displayName [.ofControl name .string]).userEntries
      = [.ofControl name .string] := rfl
  have all : Admissible kind.syntheticNames kind.syntheticFields
      ((Document.ofEntries displayName [.ofControl name .string]).keptEntries kind) := by
    rw [Document.keptEntries, user, List.filter_cons_of_pos kept]
    exact .cons (Entry.ofControl_converts name) newName (startsWithLetter_iff.mp letter) newField
      (.nil _ _)
  obtain ⟨_, _, model⟩ := Model.ofDocument_of_admissible code all
  exact ⟨_, model⟩

/-- The identifiers that come of a dotted name in camel case. -/
theorem Model.identifiers_legal_iff_dotted :
    ∃ m, Model.ofDocument .source "pg" (.ofEntries "Postgres" [.ofControl "db.sslMode" .string])
        = .ok m
      ∧ ∀ s ∈ m.identifiers, Go.Alphabet.ascii.IsIdentifier s := by
  have found : ∃ m, Model.ofDocument .source "pg"
      (.ofEntries "Postgres" [.ofControl "db.sslMode" .string]) = .ok m :=
    Model.ofDocument_text "pg" "Postgres" rfl (by decide) (by decide) (by decide)
  obtain ⟨m, accepted⟩ := found
  obtain ⟨_, _, legal⟩ := Model.identifiers_legal_iff .ascii accepted
  have kept : (Document.ofEntries "Postgres" [.ofControl "db.sslMode" .string]).keptEntries .source
      = [.ofControl "db.sslMode" .string] := rfl
  have letters : "db.sslMode".toList.all fun c => c.isAlphanum || Naming.isBreak c := by decide
  rw [kept] at legal
  refine ⟨m, accepted, (legal (by simp) (by simp [Entry.ofControl])).mpr ⟨by simp, ?_⟩⟩
  intro e member c inStem
  rw [List.mem_singleton.mp member] at inStem
  simpa using List.all_eq_true.mp letters c (Naming.mem_of_mem_dropUserSuffix inStem)

/-- A blank in a name is let through into the field, and no alphabet makes an identifier of that. -/
theorem Model.identifiers_illegal_blank :
    ∃ m, Model.ofDocument .source "pg" (.ofEntries "Postgres" [.ofControl "a b" .string]) = .ok m
      ∧ "A b" ∈ m.identifiers ∧ ∀ g : Go.Alphabet, ¬ g.IsIdentifier "A b" := by
  have found : ∃ m, Model.ofDocument .source "pg"
      (.ofEntries "Postgres" [.ofControl "a b" .string]) = .ok m :=
    Model.ofDocument_text "pg" "Postgres" rfl (by decide) (by decide) (by decide)
  obtain ⟨m, accepted⟩ := found
  have kept : (Document.ofEntries "Postgres" [.ofControl "a b" .string]).keptEntries .source
      = [.ofControl "a b" .string] := rfl
  refine ⟨m, accepted, ?_, fun g legal => ?_⟩
  · refine (Model.identifiers_of_ofDocument accepted).mpr (Or.inr (Or.inr ?_))
    rw [kept]
    exact ⟨_, List.mem_singleton_self _, by decide⟩
  · have all := (Go.Alphabet.isIdentifier_iff (by decide)).mp legal
    have blank := (Go.Alphabet.continues_ascii (by decide)).mp (all ' ' (by decide))
    exact absurd blank (by decide)

end ConnectorSchema
