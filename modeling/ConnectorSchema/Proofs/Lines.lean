import ConnectorSchema.Go.File
import ConnectorSchema.Proofs.IntegerText
import ConnectorSchema.Proofs.LiteralValue
import ConnectorSchema.Proofs.Package

/-!
Lines as characters. `toList_render` takes the text of a file apart into lines, `lines_unique` says
that a text of whole lines has no others, and the facts behind them that no text within a line breaks
it.
-/

namespace ConnectorSchema

namespace Go

def isWordChar (c : Char) : Bool := c.isAlphanum || c = '_'

/-- A text of letters, digits and underscores, if any. -/
def Wordlike (s : String) : Prop := ∀ c ∈ s.toList, isWordChar c

/-- A text that may stand as a name in code: letters, digits and underscores, at least one. -/
structure IsWord (s : String) : Prop where
  nonempty : s ≠ ""
  chars : ∀ c ∈ s.toList, isWordChar c

instance (s : String) : Decidable (IsWord s) :=
  decidable_of_iff (s ≠ "" ∧ s.toList.all isWordChar)
    ⟨fun ⟨nonempty, chars⟩ => ⟨nonempty, List.all_eq_true.mp chars⟩,
      fun word => ⟨word.nonempty, List.all_eq_true.mpr word.chars⟩⟩

end Go

/-- The names of a model are words. Its descriptions, its backend names and the texts in its defaults
and validators may be anything. -/
structure Model.WellNamed (m : Model) : Prop where
  modelName : Go.IsWord m.header.modelName
  schemaFunction : Go.IsWord m.header.schemaFunction
  mappingName : Go.IsWord m.header.mappingName
  fieldNames : ∀ a ∈ m.attributes, Go.IsWord a.fieldName
  names : ∀ a ∈ m.attributes, Go.IsWord a.name

/-- No name of a model has anything but letters, digits and underscores in it. -/
structure Model.WordNames (m : Model) : Prop where
  modelName : Go.Wordlike m.header.modelName
  schemaFunction : Go.Wordlike m.header.schemaFunction
  mappingName : Go.Wordlike m.header.mappingName
  fieldNames : ∀ a ∈ m.attributes, Go.Wordlike a.fieldName
  names : ∀ a ∈ m.attributes, Go.Wordlike a.name

theorem Model.WellNamed.wordNames {m : Model} (named : m.WellNamed) : m.WordNames :=
  ⟨named.modelName.chars, named.schemaFunction.chars, named.mappingName.chars,
    fun a member => (named.fieldNames a member).chars, fun a member => (named.names a member).chars⟩

/-- A small source with these attributes. -/
def Model.ofAttributes (displayName : String) (attributes : List Attribute) : Model :=
  ⟨.source, "pg", displayName,
    ⟨"Source", "Pg", "SourcePgModel", "SourcePgSchema", "SourcePgFieldMappings"⟩, "", "", attributes,
    Capabilities.ofAttributes attributes⟩

theorem Model.ofAttributes_wellNamed (displayName : String) {attributes : List Attribute}
    (fieldNames : ∀ a ∈ attributes, Go.IsWord a.fieldName)
    (names : ∀ a ∈ attributes, Go.IsWord a.name) :
    (Model.ofAttributes displayName attributes).WellNamed := by
  have modelName : Go.IsWord "SourcePgModel" := by decide
  have schemaFunction : Go.IsWord "SourcePgSchema" := by decide
  have mappingName : Go.IsWord "SourcePgFieldMappings" := by decide
  exact ⟨modelName, schemaFunction, mappingName, fieldNames, names⟩

namespace Go

theorem Wordlike.notMem {s : String} (word : Wordlike s) {c : Char} (other : isWordChar c = false) :
    c ∉ s.toList := by
  intro member
  rw [word c member] at other
  contradiction

/-- The characters of a line. -/
def lineChars (line : Line) : List Char := line.flatMap fun segment => segment.text.toList

@[simp]
theorem lineChars_nil : lineChars [] = [] := rfl

@[simp]
theorem lineChars_cons (segment : Segment) (line : Line) :
    lineChars (segment :: line) = segment.text.toList ++ lineChars line := rfl

@[simp]
theorem lineChars_append (a b : Line) : lineChars (a ++ b) = lineChars a ++ lineChars b :=
  List.flatMap_append

@[simp]
theorem text_code (s : String) : (Segment.code s).text.toList = s.toList := rfl

@[simp]
theorem text_literal (s : String) : (Segment.literal s).text.toList = literalChars s :=
  String.toList_ofList

@[simp]
theorem text_remark (s : String) : (Segment.remark s).text.toList = s.toList := rfl

@[simp]
theorem toList_tabs (tabs : Nat) : ("".pushn '\t' tabs).toList = List.replicate tabs '\t' := by
  rw [String.pushn_eq_repeat_push]
  induction tabs with
  | zero => rfl
  | succ n ih => rw [Nat.repeat, String.toList_push, ih, List.replicate_succ']

@[simp]
theorem lineChars_codeLine_zero (s : String) : lineChars (codeLine 0 s) = s.toList := by
  simp [codeLine]

@[simp]
theorem lineChars_codeLine_succ (tabs : Nat) (s : String) :
    lineChars (codeLine (tabs + 1) s) = '\t' :: lineChars (codeLine tabs s) := by
  simp [codeLine, List.replicate_succ]

theorem toList_text (line : Line) : (Line.text line).toList = lineChars line := by
  simp [Line.text, lineChars, List.flatMap_map]

/-- The text of lines, each with a line break behind it. -/
def text (lines : List Line) : List Char := lines.flatMap fun line => lineChars line ++ ['\n']

theorem text_cons (line : Line) (lines : List Line) :
    text (line :: lines) = lineChars line ++ '\n' :: text lines := by
  simp [text]

theorem text_append (a b : List Line) : text (a ++ b) = text a ++ text b := List.flatMap_append

theorem toList_render (m : Model) : (render m).toList = text (fileLines m) := by
  simp [render, text, List.flatMap_map, toList_text]

/-- What stands before the first `x` of a list, and what behind it, follow from the list. -/
theorem cut_unique {α : Type} {x : α} {a b c d : List α} (inA : x ∉ a) (inC : x ∉ c)
    (same : a ++ x :: b = c ++ x :: d) : a = c ∧ b = d := by
  induction a generalizing c with
  | nil =>
    cases c with
    | nil => exact ⟨rfl, (List.cons.inj same).2⟩
    | cons y c =>
      obtain ⟨rfl, _⟩ := List.cons.inj same
      exact absurd List.mem_cons_self inC
  | cons y a ih =>
    cases c with
    | nil =>
      obtain ⟨rfl, _⟩ := List.cons.inj same
      exact absurd List.mem_cons_self inA
    | cons z c =>
      obtain ⟨rfl, rest⟩ := List.cons.inj same
      obtain ⟨rfl, after⟩ := ih (fun member => inA (List.mem_cons_of_mem _ member))
        (fun member => inC (List.mem_cons_of_mem _ member)) rest
      exact ⟨rfl, after⟩

/-- A text of lines without line breaks in them has no other lines than those. -/
theorem lines_unique {a b : List (List Char)} (wholeA : ∀ line ∈ a, '\n' ∉ line)
    (wholeB : ∀ line ∈ b, '\n' ∉ line)
    (same : (a.flatMap fun line => line ++ ['\n']) = b.flatMap fun line => line ++ ['\n']) :
    a = b := by
  induction a generalizing b with
  | nil =>
    cases b with
    | nil => rfl
    | cons line b => simp at same
  | cons line a ih =>
    cases b with
    | nil => simp at same
    | cons other b =>
      simp only [List.flatMap_cons, List.append_assoc, List.cons_append, List.nil_append] at same
      obtain ⟨rfl, rest⟩ :=
        cut_unique (wholeA line List.mem_cons_self) (wholeB other List.mem_cons_self) same
      rw [ih (fun l member => wholeA l (List.mem_cons_of_mem _ member))
        (fun l member => wholeB l (List.mem_cons_of_mem _ member)) rest]

theorem newline_notMem_literalChars (s : String) : '\n' ∉ literalChars s :=
  fun member => absurd (isControl_of_mem_literalChars member) (by decide)

theorem newline_notMem_oneLine (s : String) : '\n' ∉ (oneLine s).toList := by
  simp only [oneLine, String.toList_map, List.mem_map, not_exists, not_and]
  intro c _
  split
  · decide
  · rename_i kept
    exact fun same => kept (Or.inl same)

theorem newline_notMem_integer (n : Int) : '\n' ∉ n.repr.toList := by
  intro member
  rcases Number.digit_or_minus_of_mem_repr member with digit | minus
  · exact absurd digit (by decide)
  · exact absurd minus (by decide)

theorem newline_notMem_fieldLine {a : Attribute} (field : Wordlike a.fieldName)
    (name : Wordlike a.name) : '\n' ∉ lineChars (fieldLine a) := by
  have inField := field.notMem (c := '\n') (by decide)
  have inName := name.notMem (c := '\n') (by decide)
  cases kind : a.kind <;> simp [fieldLine, codeLine, inField, inName, kind, typeName]

theorem newline_notMem_defaultSegments (d : Default) : '\n' ∉ lineChars (defaultSegments d) := by
  cases d with
  | string s => simp [defaultSegments, newline_notMem_literalChars]
  | int64 n => simp [defaultSegments, newline_notMem_integer]
  | bool b => cases b <;> simp [defaultSegments, booleanText]

theorem newline_notMem_literalList (values : List String) :
    '\n' ∉ lineChars (literalList values) := by
  induction values with
  | nil => simp [literalList]
  | cons s rest ih =>
    cases rest with
    | nil => simp [literalList, newline_notMem_literalChars]
    | cons => simpa [literalList, newline_notMem_literalChars] using ih

theorem newline_notMem_validatorSegments (kind : ValueKind) (v : Validator) :
    '\n' ∉ lineChars (validatorSegments kind v) := by
  have stem : '\n' ∉ (packageStem kind).toList := by cases kind <;> decide
  cases v with
  | oneOf values => simp [validatorSegments, stem, newline_notMem_literalList]
  | between min max => simp [validatorSegments, stem, newline_notMem_integer]

end Go

end ConnectorSchema
