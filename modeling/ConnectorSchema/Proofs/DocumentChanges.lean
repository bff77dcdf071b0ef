import ConnectorSchema.Document.Form
import ConnectorSchema.Proofs.MemberChanges
import ConnectorSchema.Proofs.RoundTrip

/-!
What a document says does not depend on the order of members, on members that nobody knows, or on
whether an absent option is written as `null`, at any of the four kinds of record in it
(`Document.ofJson_of_changed`).
-/

namespace ConnectorSchema

open Json

/-! ## Changes -/

/-- The fields of an input that may be `null`. Its origin is not one of them. -/
def Input.Field.optional : List Input.Field :=
  [.defaultValue, .choices, .min, .max, .step, .readonly, .placeholder, .rows, .multiline,
    .validation, .functionName, .dependencies]

def Input.Changed : Node → Node → Prop :=
  form.Changed Field.optional fun _ _ _ => False

def Condition.Changed : Node → Node → Prop :=
  form.Changed [] fun _ _ _ => False

def Entry.Field.optional : List Entry.Field :=
  [.required, .description, .displayName, .encrypt, .setOnce, .conditions, .kafka]

/-- A change within a field of an entry: to one of the conditions, or to the input. -/
def Entry.Field.Changed : Entry.Field → Node → Node → Prop
  | .conditions => ItemChanged Condition.Changed
  | .input => Input.Changed
  | _ => fun _ _ => False

def Entry.Changed : Node → Node → Prop :=
  form.Changed Field.optional Field.Changed

def Document.Field.optional : List Document.Field :=
  [.description, .schemaLevels, .debeziumConnectorName, .serialisation]

/-- A change within a field of a document: to one of the entries. -/
def Document.Field.Changed : Document.Field → Node → Node → Prop
  | .entries => ItemChanged Entry.Changed
  | _ => fun _ _ => False

/-- One change to the members of one record, of the document itself or somewhere within it. -/
def Document.Changed : Node → Node → Prop :=
  form.Changed Field.optional Field.Changed

/-! ## Readers -/

theorem ok_eq_ok_iff {α : Type} {a b : α} :
    (.ok b : Except ReadError α) = .ok a ↔ some b = some a := by simp

theorem Input.Field.read_null_iff (f : Field) (member : f ∈ optional) (room : Nat) (a : f.Content) :
    f.read room (.scalar .null) = .ok a ↔ f.absent = some a := by
  cases f with
  | control | origin => exact absurd member (by decide)
  | _ => exact ok_eq_ok_iff

theorem Entry.Field.read_null_iff (f : Field) (member : f ∈ optional) (room : Nat) (a : f.Content) :
    f.read room (.scalar .null) = .ok a ↔ f.absent = some a := by
  cases f with
  | name | userDefined | input => exact absurd member (by decide)
  | _ => exact ok_eq_ok_iff

theorem Document.Field.read_null_iff (f : Field) (member : f ∈ optional) (room : Nat)
    (a : f.Content) : f.read room (.scalar .null) = .ok a ↔ f.absent = some a := by
  cases f with
  | displayName | entries => exact absurd member (by decide)
  | _ => exact ok_eq_ok_iff

theorem Input.reader_keeps : Keeps reader Changed :=
  (RecordForm.keeps keysDistinct Field.read_null_iff fun _ => .never).map ofFields

theorem Condition.reader_keeps : Keeps reader Changed :=
  (RecordForm.keeps keysDistinct (fun _ member => absurd member List.not_mem_nil)
    fun _ => .never).map ofFields

theorem Entry.reader_keeps : Keeps reader Changed := by
  refine (RecordForm.keeps keysDistinct Field.read_null_iff fun f => ?_).map ofFields
  cases f with
  | conditions => exact Condition.reader_keeps.readList.readOptional
  | input => exact Input.reader_keeps
  | _ => exact .never

theorem Document.reader_keeps : Keeps reader Changed := by
  refine (RecordForm.keeps keysDistinct Field.read_null_iff fun f => ?_).map ofFields
  cases f with
  | entries => exact Entry.reader_keeps.readList
  | _ => exact .never

/-- A text that is changed in this way gives the same document. -/
theorem Document.ofJson_of_changed {text changed : String} {root : Node} {d : Document}
    (found : ofJson text = .ok d) (change : Changed (scan text).root root)
    (spelt : root.IsTextOf changed) : ofJson changed = .ok d := by
  obtain ⟨rooted, _⟩ := read_eq_ok_iff.mp found
  have again := reader_keeps nestingLimit _ root d change rooted
  refine read_eq_ok_iff.mpr ?_
  rw [scan_of_isTextOf spelt]
  exact ⟨again, rfl⟩

/-- A hint that nobody knows, within the input of an entry. -/
theorem Document.ofJson_of_changed_hint :
    let document (input : List (String × Value)) : Value :=
      .object [("display_name", .string "S"), ("config", .list [.object [("name", .string "n"),
        ("user_defined", .boolean true), ("value", .object input)]])]
    let plain := [("control", .string "toggle")]
    let hinted := [("hint", .list [.null]), ("control", .string "toggle")]
    ∃ d, ofJson (document plain).text = .ok d ∧ ofJson (document hinted).text = .ok d := by
  intro document plain hinted
  have input : Input.Changed (Value.object plain).node (Value.object hinted).node := by
    have unknown : "hint" ∉ Input.form.fields.map Input.form.key := by decide
    exact .members (@RecordForm.Rearranged.unknownAdded Input.form Input.Field.optional [] _ _ _ _ _
      (RawString.text_ofString "hint") unknown (Value.node_speltBy (.list [.null])))
  have entry := @RecordForm.Changed.member Entry.form Entry.Field.optional Entry.Field.Changed
    (memberNodes [("name", .string "n"), ("user_defined", .boolean true)]) [] _ .input _ _
    (RawString.text_ofString "value") input
  have change := @RecordForm.Changed.member form Field.optional Field.Changed
    (memberNodes [("display_name", .string "S")]) [] _ .entries _ _ (RawString.text_ofString "config")
    (@ItemChanged.item Entry.Changed [] [] _ _ entry)
  have accepted : (ofJson (document plain).text).toOption.isSome = true := by decide +kernel
  cases found : ofJson (document plain).text with
  | error e =>
    rw [found] at accepted
    contradiction
  | ok d =>
    refine ⟨d, rfl, Document.ofJson_of_changed found ?_ (document hinted).node_isTextOf⟩
    rw [scan_text]
    exact change

end ConnectorSchema
