import ConnectorSchema.Proofs.AttributeRules
import ConnectorSchema.Proofs.Trimming
import ConnectorSchema.Proofs.WrittenInteger

/-!
Descriptions say what the schema says. Behind a text of the entry's own stand notes on the default, on
the admitted values and on secrecy. They are made from what an attribute is made from, and in a model
they are just those that its parts call for (`Model.descriptions_agree`).
-/

namespace ConnectorSchema

/-- The text for a default: a text itself, the numeral of an integer, the name of a truth value. -/
inductive Default.IsWritten : Default → String → Prop
  | string {s : String} : IsWritten (.string s) s
  | int64 {k : Int64} {text : String} : Number.IsNumeral text.toList k.toInt →
      IsWritten (.int64 k) text
  | true : IsWritten (.bool true) "true"
  | false : IsWritten (.bool false) "false"

/-- What a description tells of the schema. -/
inductive Note where
  | default (value : Default)
  | options (values : List String)
  | secret

namespace Note

/-- How a note is put in plain text. Of defaults, texts alone are put between quotes. -/
inductive Plain : Note → String → Prop
  | text {s : String} : Plain (.default (.string s)) ("Defaults to \"" ++ s ++ "\".")
  | value {value : Default} {text : String} : value.kind ≠ .string → value.IsWritten text →
      Plain (.default value) ("Defaults to " ++ text ++ ".")
  | options {values : List String} :
      Plain (.options values) ("Valid values: " ++ ", ".intercalate values ++ ".")
  | secret : Plain .secret "This value is sensitive and will not appear in logs or CLI output."

/-- How a note is put in markdown. Values are put between backticks. -/
inductive Markdown : Note → String → Prop
  | default {value : Default} {text : String} : value.IsWritten text →
      Markdown (.default value) ("Defaults to `" ++ text ++ "`.")
  | options {values : List String} : Markdown (.options values)
      ("Valid values: " ++ ", ".intercalate (values.map fun value => "`" ++ value ++ "`") ++ ".")
  | secret : Markdown .secret
      "**Security:** This value is sensitive and will be masked in logs and CLI output."

/-- Where a note stands among others. -/
def rank : Note → Nat
  | default _ => 0
  | options _ => 1
  | secret => 2

end Note

/-- These are the notes that the parts of an attribute call for, each of them once and in order. -/
structure Attribute.CallsFor (a : Attribute) (notes : List Note) : Prop where
  default : ∀ value, .default value ∈ notes ↔ a.default? = some value
  options : ∀ values, .options values ∈ notes ↔ a.validator? = some (.oneOf values)
  secret : .secret ∈ notes ↔ a.sensitive
  inOrder : notes.Pairwise (·.rank < ·.rank)

/-- A text that says nothing, or none at all. -/
def Text.SaysNothing (text? : Option String) : Prop := ∀ s, text? = some s → AllBlank s.toList

/-- The text of an entry's own: the first of description and label that says something, without the
blanks around it. -/
inductive Entry.OwnText (e : Entry) : String → Prop
  | description {s t : String} : e.description = some s → ¬ Text.AllBlank s.toList →
      Text.Trims s.toList t.toList → OwnText e t
  | label {s t : String} : Text.SaysNothing e.description → e.displayName = some s →
      ¬ Text.AllBlank s.toList → Text.Trims s.toList t.toList → OwnText e t
  | none : Text.SaysNothing e.description → Text.SaysNothing e.displayName → OwnText e ""

/-- Texts that are there, with single blanks between them. -/
def spaced (own : String) (notes : List String) : String :=
  " ".intercalate (if own = "" then notes else own :: notes)

/-- The descriptions of the attribute of an entry: the text of the entry's own, and the notes that the
attribute calls for. -/
structure Attribute.Described (a : Attribute) (e : Entry) : Prop where
  texts : ∃ own notes plain markdown, e.OwnText own ∧ a.CallsFor notes
    ∧ List.Forall₂ Note.Plain notes plain ∧ a.description = spaced own plain
    ∧ List.Forall₂ Note.Markdown notes markdown ∧ a.markdown = spaced own markdown
  plainEnds : Text.Solid a.description.toList
  markdownEnds : Text.Solid a.markdown.toList

/-- It begins with something and ends with a full stop. -/
def IsSentence (s : String) : Prop :=
  ∃ c inner, Text.isBlank c = false ∧ s.toList = c :: (inner ++ ['.'])

theorem IsSentence.ne_empty {s : String} (sentence : IsSentence s) : s ≠ "" := by
  obtain ⟨c, inner, _, chars⟩ := sentence
  rintro rfl
  cases chars

theorem IsSentence.solid {s : String} (sentence : IsSentence s) : Text.Solid s.toList := by
  obtain ⟨c, inner, first, chars⟩ := sentence
  rw [chars]
  exact Text.solid_of_ends first rfl inner

/-- Whatever stands between a beginning and a full stop. -/
theorem isSentence_around (opening : String) {c : Char} {rest : List Char}
    (chars : opening.toList = c :: rest) (first : Text.isBlank c = false) (middle : String) :
    IsSentence (opening ++ middle ++ ".") :=
  ⟨c, rest ++ middle.toList, first, by simp [chars]⟩

theorem Default.isWritten_bare (value : Default) : value.IsWritten value.bare := by
  cases value with
  | string s => exact .string
  | int64 k => exact .int64 (Number.isNumeral_repr k.toInt)
  | bool b =>
    cases b with
    | true => exact .true
    | false => exact .false

namespace Note

/-- The note in plain text. -/
def plain : Note → String
  | default value => "Defaults to " ++ value.literal ++ "."
  | options values => "Valid values: " ++ ", ".intercalate values ++ "."
  | secret => sensitiveNote

/-- The note in markdown. -/
def markdown : Note → String
  | default value => "Defaults to " ++ codeSpan value.bare ++ "."
  | options values => "Valid values: " ++ ", ".intercalate (values.map codeSpan) ++ "."
  | secret => sensitiveMarkdownNote

theorem plain_spec (n : Note) : n.Plain n.plain := by
  cases n with
  | default value =>
    cases value with
    | string s =>
      have quoted : "Defaults to " ++ ("\"" ++ s ++ "\"") ++ "." = "Defaults to \"" ++ s ++ "\"." := by
        simp [← String.toList_inj]
      rw [plain, Default.literal, quoted]
      exact .text
    | int64 k => exact .value ValueKind.noConfusion (Default.isWritten_bare _)
    | bool b => exact .value ValueKind.noConfusion (Default.isWritten_bare _)
  | options values => exact .options
  | secret => exact .secret

theorem markdown_spec (n : Note) : n.Markdown n.markdown := by
  cases n with
  | default value =>
    have quoted : "Defaults to " ++ ("`" ++ value.bare ++ "`") ++ "."
        = "Defaults to `" ++ value.bare ++ "`." := by
      simp [← String.toList_inj]
    rw [markdown, codeSpan, quoted]
    exact .default value.isWritten_bare
  | options values => exact .options
  | secret => exact .secret

theorem isSentence_plain (n : Note) : IsSentence n.plain := by
  cases n with
  | default value => exact isSentence_around "Defaults to " rfl rfl value.literal
  | options values => exact isSentence_around "Valid values: " rfl rfl _
  | secret => exact ⟨'T', (sensitiveNote.toList.drop 1).dropLast, rfl, by decide +kernel⟩

theorem isSentence_markdown (n : Note) : IsSentence n.markdown := by
  cases n with
  | default value => exact isSentence_around "Defaults to " rfl rfl _
  | options values => exact isSentence_around "Valid values: " rfl rfl _
  | secret => exact ⟨'*', (sensitiveMarkdownNote.toList.drop 1).dropLast, rfl, by decide +kernel⟩

end Note

def Validator.options? : Validator → Option (List String)
  | .oneOf values => some values
  | .between _ _ => none

/-- The notes that the parts of an attribute call for. -/
def Attribute.notes (a : Attribute) : List Note :=
  a.default?.toList.map .default ++ (a.validator?.bind Validator.options?).toList.map .options
    ++ if a.sensitive then [.secret] else []

theorem Attribute.callsFor_notes (a : Attribute) : a.CallsFor a.notes := by
  have options (values : List String) :
      a.validator?.bind Validator.options? = some values ↔ a.validator? = some (.oneOf values) := by
    cases a.validator? with
    | none => simp
    | some v => cases v <;> simp [Validator.options?]
  constructor
  · intro value
    simp [notes, Option.mem_toList]
  · intro values
    simp [notes, options, Option.mem_toList]
  · simp [notes]
  · unfold notes
    cases a.default? <;> cases a.validator?.bind Validator.options? <;> cases a.sensitive <;>
      simp [Note.rank]

theorem Attribute.map_notes (a : Attribute) (write : Note → String) :
    a.notes.map write = a.default?.toList.map (fun value => write (.default value))
      ++ ((a.validator?.bind Validator.options?).toList.map (fun values => write (.options values))
        ++ if a.sensitive then [write .secret] else []) := by
  rw [notes, List.map_append, List.map_append, List.map_map, List.map_map, apply_ite (List.map write),
    List.append_assoc]
  rfl

/-- The options of a select are what its validator admits. -/
theorem Validator.options?_of_ofEntry {e : Entry} {v? : Option Validator}
    (found : Validator.given? e = .ok v?) : v?.bind options? = e.validValues? := by
  by_cases select : e.input.control = .oneSelect
  · have valid : Validator.given? e = .ok (e.validValues?.map .oneOf) := by
      rw [Validator.given?, select]
    cases valid.symm.trans found
    cases e.validValues? <;> rfl
  · rw [Entry.validValues?, if_neg fun chosen => select chosen.1]
    cases v? with
    | none => rfl
    | some v =>
      rcases of_ofEntry found with ⟨isSelect, _⟩ | ⟨_, _, _, rfl⟩
      · exact absurd isSelect select
      · rfl

theorem find?_trim_of_saysNothing {o : Option String} (nothing : Text.SaysNothing o) :
    (o.toList.map Text.trim).find? (· ≠ "") = none := by
  cases o with
  | none => rfl
  | some s => simp [Text.trim_eq_empty_iff.mpr (nothing s rfl)]

theorem find?_trim_of_not_allBlank {s : String} (visible : ¬ Text.AllBlank s.toList) :
    ((some s).toList.map Text.trim).find? (· ≠ "") = some (Text.trim s) := by
  simp [Text.trim_eq_empty_iff, visible]

theorem Text.trims_trim (s : String) : Trims s.toList (trim s).toList := by
  rw [toList_trim]
  exact trims_trimmed s.toList

theorem Text.saysNothing_or (o : Option String) :
    SaysNothing o ∨ ∃ s, o = some s ∧ ¬ AllBlank s.toList := by
  by_cases nothing : SaysNothing o
  · exact Or.inl nothing
  · refine Or.inr ?_
    simpa [SaysNothing] using nothing

theorem Entry.ownText_summary (e : Entry) : e.OwnText e.summary := by
  have texts : e.summary = (((e.description.toList.map Text.trim).find? (· ≠ "")).or
      ((e.displayName.toList.map Text.trim).find? (· ≠ ""))).getD "" := by
    rw [← List.find?_append, ← List.map_append]
    unfold summary
    cases e.description <;> cases e.displayName <;> rfl
  rw [texts]
  rcases Text.saysNothing_or e.description with nothing | ⟨s, written, visible⟩
  · rw [find?_trim_of_saysNothing nothing, Option.none_or]
    rcases Text.saysNothing_or e.displayName with none | ⟨s, written, visible⟩
    · rw [find?_trim_of_saysNothing none]
      exact .none nothing none
    · rw [written, find?_trim_of_not_allBlank visible]
      exact .label nothing written visible (Text.trims_trim s)
  · rw [written, find?_trim_of_not_allBlank visible, Option.some_or]
    exact .description written visible (Text.trims_trim s)

theorem joinSentences_eq_spaced {own : String} {notes : List String}
    (sentences : ∀ n ∈ notes, IsSentence n) : joinSentences (own :: notes) = spaced own notes := by
  have kept : notes.filter (· ≠ "") = notes :=
    List.filter_eq_self.mpr fun n member => decide_eq_true (sentences n member).ne_empty
  rw [joinSentences, spaced, List.filter_cons, kept]
  by_cases empty : own = "" <;> simp [empty]

theorem Entry.OwnText.solid {e : Entry} {t : String} (own : e.OwnText t) : Text.Solid t.toList := by
  cases own with
  | description _ _ trims | label _ _ _ trims => exact trims.solid
  | none => exact .nil

theorem solid_spaced {own : String} {notes : List String} (solid : Text.Solid own.toList)
    (sentences : ∀ n ∈ notes, IsSentence n) : Text.Solid (spaced own notes).toList := by
  have parts : ∀ n ∈ notes, n.toList ≠ [] ∧ Text.Solid n.toList := fun n member =>
    ⟨by simpa using (sentences n member).ne_empty, (sentences n member).solid⟩
  rw [spaced, String.toList_intercalate]
  refine Text.solid_intercalate (List.forall_mem_map.mpr ?_)
  split
  · exact parts
  · rename_i given
    exact List.forall_mem_cons.mpr ⟨⟨by simpa using given, solid⟩, parts⟩

section

variable {e : Entry} {default? : Option Default} {validator? : Option Validator}
  (admits : Validator.given? e = .ok validator?)

include admits

theorem Entry.describe_eq_spaced : e.describe default? e.isSensitive
    = spaced e.summary ((e.attribute default? validator?).notes.map Note.plain) := by
  rw [← joinSentences_eq_spaced (List.forall_mem_map.mpr fun n _ => n.isSentence_plain), describe,
    ← Validator.options?_of_ofEntry admits, Attribute.map_notes, List.append_assoc, List.append_assoc]
  rfl

theorem Entry.describeMarkdown_eq_spaced : e.describeMarkdown default? e.isSensitive
    = spaced e.summary ((e.attribute default? validator?).notes.map Note.markdown) := by
  rw [← joinSentences_eq_spaced (List.forall_mem_map.mpr fun n _ => n.isSentence_markdown),
    describeMarkdown, ← Validator.options?_of_ofEntry admits, Attribute.map_notes, List.append_assoc,
    List.append_assoc]
  rfl

end

theorem forall₂_map {α β : Type} {r : α → β → Prop} {f : α → β} (each : ∀ a, r a (f a))
    (as : List α) : List.Forall₂ r as (as.map f) :=
  List.forall₂_map_right_iff.mpr (List.forall₂_same.mpr fun a _ => each a)

theorem Attribute.described_of_ofEntry {e : Entry} {a : Attribute}
    (found : Attribute.ofEntry e = .ok a) : a.Described e := by
  obtain ⟨_, default?, validator?, _, admits, rfl⟩ := ofEntry_ok_iff.mp found
  have own := e.ownText_summary
  have plain : (e.attribute default? validator?).description = _ := e.describe_eq_spaced admits
  have markdown : (e.attribute default? validator?).markdown = _ := e.describeMarkdown_eq_spaced admits
  refine ⟨⟨_, _, _, _, own, callsFor_notes _, forall₂_map (fun n => n.plain_spec) _, plain,
    forall₂_map (fun n => n.markdown_spec) _, markdown⟩, ?_, ?_⟩
  · rw [plain]
    exact solid_spaced own.solid (List.forall_mem_map.mpr fun n _ => n.isSentence_plain)
  · rw [markdown]
    exact solid_spaced own.solid (List.forall_mem_map.mpr fun n _ => n.isSentence_markdown)

/-- For each entry of the user, in transforms for all but the one for their name, both descriptions of its
attribute in the model have the same text of its own and the same notes behind it: on the default, if
the attribute has one, on the values, if it has a validator with options, and on secrecy, if it is a
secret. -/
theorem Model.descriptions_agree {kind : EntityKind} {code : String} {d : Document} {m : Model}
    (accepted : Model.ofDocument kind code d = .ok m) :
    let kept := d.entries.filter fun e =>
      e.userDefined ∧ (kind = .transform → e.name ≠ "transforms.name")
    List.Forall₂ (fun a e => Attribute.ofEntry e = .ok a ∧ a.apiName = e.name ∧ a.Described e)
      (m.attributes.drop 3) kept := by
  intro kept
  obtain ⟨_, more, found, rfl⟩ := Model.of_accepted accepted
  have behind : (d.model kind code (kind.syntheticAttributes ++ more)).attributes.drop 3 = more := by
    rw [Document.model, kind.syntheticAttributes_eq]
    rfl
  rw [behind]
  rw [d.keptEntries_eq] at found
  refine (forall₂_of_map_ofEntry found).imp fun a e ofEntry => ?_
  exact ⟨ofEntry, (Attribute.reflects_of_ofEntry ofEntry).apiName,
    Attribute.described_of_ofEntry ofEntry⟩

/-- A secret select with a blank description, so that its label stands before all three notes; a number
below zero; and a truth value, before which nothing stands. -/
theorem Model.descriptions_agree_select :
    let mode : Entry := { Entry.ofControl "mode" .oneSelect with
      description := some " \t", displayName := some " Mode\n", encrypt := true,
      input := { Input.ofControl .oneSelect with
        defaultValue := some (.string "fast"), choices := [.string "fast", .integer 2] } }
    let offset : Entry := { Entry.ofControl "offset" .number with
      description := some "Offset.",
      input := { Input.ofControl .number with defaultValue := some (.integer (-10)) } }
    let ssl : Entry := { Entry.ofControl "ssl" .toggle with
      input := { Input.ofControl .toggle with defaultValue := some (.string "TRUE") } }
    let hidden : Entry := { Entry.ofControl "hidden" .string with userDefined := false }
    ∃ m, Model.ofDocument .source "pg" (.ofEntries "Postgres" [mode, offset, hidden, ssl]) = .ok m
      ∧ List.Forall₂ Attribute.Described (m.attributes.drop 3) [mode, offset, ssl]
      ∧ (m.attributes.drop 3).map (fun a => (a.description, a.markdown))
        = [("Mode Defaults to \"fast\". Valid values: fast, 2. This value is sensitive and will not "
              ++ "appear in logs or CLI output.",
            "Mode Defaults to `fast`. Valid values: `fast`, `2`. **Security:** This value is "
              ++ "sensitive and will be masked in logs and CLI output."),
          ("Offset. Defaults to -10.", "Offset. Defaults to `-10`."),
          ("Defaults to true.", "Defaults to `true`.")] := by
  intro mode offset ssl hidden
  let document := Document.ofEntries "Postgres" [mode, offset, hidden, ssl]
  have all : Admissible (EntityKind.syntheticNames .source) (EntityKind.syntheticFields .source)
      (document.keptEntries .source) :=
    .cons (Entry.converts_of_isOk (by decide +kernel)) (by decide) (by decide) (by decide)
      (.cons (Entry.converts_of_isOk (by decide +kernel)) (by decide) (by decide) (by decide)
        (.cons (Entry.converts_of_isOk (by decide +kernel)) (by decide) (by decide) (by decide)
          (.nil _ _)))
  obtain ⟨_, _, accepted⟩ := Model.ofDocument_of_admissible "pg" all
  have described := Model.descriptions_agree accepted
  have kept : (document.entries.filter fun e =>
      e.userDefined ∧ (EntityKind.source = .transform → e.name ≠ "transforms.name"))
        = [mode, offset, ssl] := rfl
  rw [kept] at described
  refine ⟨_, accepted, described.imp fun a e each => each.2.2, ?_⟩
  let texts (a : Attribute) : String × String := (a.description, a.markdown)
  have same := map_eq_of_forall₂ (described.imp fun a e each =>
    (congrArg (fun made => made.toOption.map texts) each.1).symm)
  refine List.map_injective_iff.mpr (Option.some_injective _) ?_
  rw [List.map_map]
  exact same.trans (by decide +kernel)

end ConnectorSchema
