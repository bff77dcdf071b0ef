import ConnectorSchema.Proofs.Lines

/-!
The lines of one attribute, part by part. Each line shows by its beginning to which part it belongs
(`label_of_mem_lines`), so the lines of two attributes of one kind are the same only part by part.
-/

namespace ConnectorSchema.Go

/-- The parts of an attribute's lines, most of which may be missing. -/
inductive Part where
  | head
  | required
  | optional
  | computed
  | sensitive
  | description
  | markdown
  | elementType
  | default
  | validatorsOpening
  | validator
  | validatorsEnd
  | modifiersOpening
  | modifiers
  | modifiersEnd
  | close
deriving DecidableEq

namespace Part

/-- The order in which the parts are written. -/
def order : List Part :=
  [head, required, optional, computed, sensitive, description, markdown, elementType, default,
    validatorsOpening, validator, validatorsEnd, modifiersOpening, modifiers, modifiersEnd, close]

theorem mem_order (p : Part) : p ∈ order := by
  cases p <;> decide

/-- The lines that a part takes. -/
def lines (a : Attribute) : Part → List Line
  | head => [[.code "\t\t\t", .literal a.name,
      .code (": schema." ++ typeName a.kind ++ "Attribute\x7b")]]
  | required => flagLine a.presence.isRequired "Required: true,"
  | optional => flagLine a.presence.isOptional "Optional: true,"
  | computed => flagLine a.presence.isComputed "Computed: true,"
  | sensitive => flagLine a.sensitive "Sensitive: true,"
  | description => [literalLine 4 "Description:         " a.description]
  | markdown => [literalLine 4 "MarkdownDescription: " a.markdown]
  | elementType => flagLine (a.kind == .stringList) "ElementType: types.StringType,"
  | default => a.default?.toList.map fun d =>
      .code "\t\t\t\tDefault: " :: defaultSegments d ++ [.code ","]
  | validatorsOpening =>
    flagLine a.validator?.isSome ("Validators: []validator." ++ typeName a.kind ++ "\x7b")
  | validator => a.validator?.toList.map fun v =>
      .code "\t\t\t\t\t" :: validatorSegments a.kind v ++ [.code ","]
  | validatorsEnd => flagLine a.validator?.isSome "\x7d,"
  | modifiersOpening => flagLine (!(planModifiers a).isEmpty)
      ("PlanModifiers: []planmodifier." ++ typeName a.kind ++ "\x7b")
  | modifiers => (planModifiers a).map fun m => codeLine 5 (m ++ ",")
  | modifiersEnd => flagLine (!(planModifiers a).isEmpty) "\x7d,"
  | close => [codeLine 3 "\x7d,"]

end Part

theorem attributeLines_eq (a : Attribute) :
    attributeLines a = Part.order.flatMap fun p => p.lines a := by
  cases default : a.default? <;> cases validator : a.validator? <;>
    cases modifiers : planModifiers a <;>
      simp [attributeLines, Part.order, Part.lines, flagLine, default, validator, modifiers]

theorem mem_flagLine_iff {flag : Bool} {s : String} {line : Line} :
    line ∈ flagLine flag s ↔ flag ∧ line = codeLine 4 s := by
  cases flag <;> simp [flagLine]

theorem mem_planModifiers_iff {a : Attribute} {m : String} :
    m ∈ planModifiers a ↔
      a.stateForUnknown ∧ m = packageStem a.kind ++ "planmodifier.UseStateForUnknown()"
      ∨ a.requiresReplace ∧ m = packageStem a.kind ++ "planmodifier.RequiresReplace()" := by
  simp only [planModifiers, List.mem_append, List.mem_ite_nil_right, List.mem_singleton]

theorem newline_notMem_part {a : Attribute} {p : Part} {line : Line} (member : line ∈ p.lines a) :
    '\n' ∉ lineChars line := by
  have type : '\n' ∉ (typeName a.kind).toList := by cases a.kind <;> decide
  have stem : '\n' ∉ (packageStem a.kind).toList := by cases a.kind <;> decide
  cases p with
  | head | description | markdown | close =>
    rw [List.mem_singleton.mp member]
    simp only [codeLine, literalLine, lineChars_cons, lineChars_nil, text_code, text_literal,
      String.toList_append, toList_tabs]
    repeat rw [String.toList_ofList]
    simp [type, newline_notMem_literalChars]
  | required | optional | computed | sensitive | elementType | validatorsEnd | modifiersEnd
    | validatorsOpening | modifiersOpening =>
    rw [(mem_flagLine_iff.mp member).2]
    simp only [codeLine, lineChars_cons, lineChars_nil, text_code, String.toList_append,
      toList_tabs]
    repeat rw [String.toList_ofList]
    simp [type]
  | default =>
    obtain ⟨d, _, rfl⟩ := List.mem_map.mp member
    simp [newline_notMem_defaultSegments]
  | validator =>
    obtain ⟨v, _, rfl⟩ := List.mem_map.mp member
    simp [newline_notMem_validatorSegments]
  | modifiers =>
    obtain ⟨m, isModifier, rfl⟩ := List.mem_map.mp member
    rcases mem_planModifiers_iff.mp isModifier with ⟨_, rfl⟩ | ⟨_, rfl⟩ <;> simp [codeLine, stem]

/-- The beginning of a line, up to the first character that is neither a tab nor in a word. -/
def label : List Char → List Char
  | [] => []
  | c :: rest => if c = '\t' || isWordChar c then c :: label rest else [c]

/-- How the lines of a part begin, for an attribute of this kind. -/
def Part.label (kind : ValueKind) : Part → String
  | head => "\t\t\t\""
  | required => "\t\t\t\tRequired:"
  | optional => "\t\t\t\tOptional:"
  | computed => "\t\t\t\tComputed:"
  | sensitive => "\t\t\t\tSensitive:"
  | description => "\t\t\t\tDescription:"
  | markdown => "\t\t\t\tMarkdownDescription:"
  | elementType => "\t\t\t\tElementType:"
  | default => "\t\t\t\tDefault:"
  | validatorsOpening => "\t\t\t\tValidators:"
  | validator => "\t\t\t\t\t" ++ packageStem kind ++ "validator."
  | modifiersOpening => "\t\t\t\tPlanModifiers:"
  | modifiers => "\t\t\t\t\t" ++ packageStem kind ++ "planmodifier."
  | validatorsEnd | modifiersEnd => "\t\t\t\t\x7d"
  | close => "\t\t\t\x7d"

theorem label_of_mem_lines {a : Attribute} {p : Part} {line : Line} (member : line ∈ p.lines a) :
    label (lineChars line) = (p.label a.kind).toList := by
  cases p with
  | head | description | markdown | close =>
    rw [List.mem_singleton.mp member]
    simp only [codeLine, literalLine, literalChars, Part.label, lineChars_cons, text_code,
      text_literal, String.toList_append, toList_tabs]
    repeat rw [String.toList_ofList]
    simp [label, isWordChar]
  | required | optional | computed | sensitive | elementType | validatorsEnd | modifiersEnd
    | validatorsOpening | modifiersOpening =>
    rw [(mem_flagLine_iff.mp member).2]
    simp only [codeLine, Part.label, lineChars_cons, text_code, String.toList_append, toList_tabs]
    repeat rw [String.toList_ofList]
    simp [label, isWordChar]
  | default =>
    obtain ⟨d, _, rfl⟩ := List.mem_map.mp member
    simp only [Part.label, lineChars_cons, text_code, List.cons_append]
    repeat rw [String.toList_ofList]
    simp [label, isWordChar]
  | validator =>
    obtain ⟨v, _, rfl⟩ := List.mem_map.mp member
    cases v <;> cases a.kind <;>
      simp only [validatorSegments, packageStem, Part.label, lineChars_cons, text_code,
        List.cons_append, String.toList_append] <;>
      (repeat rw [String.toList_ofList]) <;> simp [label, isWordChar]
  | modifiers =>
    obtain ⟨m, isModifier, rfl⟩ := List.mem_map.mp member
    rcases mem_planModifiers_iff.mp isModifier with ⟨_, rfl⟩ | ⟨_, rfl⟩ <;> cases a.kind <;>
      simp only [codeLine, packageStem, Part.label, lineChars_cons, text_code,
        String.toList_append, toList_tabs] <;>
      (repeat rw [String.toList_ofList]) <;> simp [label, isWordChar]

theorem Part.label_injective {kind : ValueKind} {p q : Part} (same : p.label kind = q.label kind) :
    p = q ∨ p = .validatorsEnd ∨ p = .modifiersEnd := by
  have all : ∀ kind ∈ ValueKind.all, ∀ p ∈ order, ∀ q ∈ order, p.label kind = q.label kind →
      p = q ∨ p = .validatorsEnd ∨ p = .modifiersEnd := by decide
  exact all kind kind.mem_all p p.mem_order q q.mem_order same

end ConnectorSchema.Go
