import ConnectorSchema.Proofs.AttributeLines

/-!
A generated file section by section. None of its lines breaks (`newline_notMem_fileLines`), so its
text has just these lines, whatever the free texts of the model are.
-/

namespace ConnectorSchema.Go

/-- The line for a package in the import block. -/
def importLine (path : String) : Line := codeLine 1 ("\"" ++ path ++ "\"")

/-- The lines up to the import block. -/
def opening : List Line :=
  [codeLine 0 ("// Code generated by " ++ generatorName ++ ". DO NOT EDIT."), blankLine,
    codeLine 0 "package generated", blankLine, codeLine 0 "import ("]

/-- The lines between the structure and the attributes of the schema. -/
def schemaOpening (m : Model) : List Line :=
  [blankLine,
    remarkLine m.header.schemaFunction " returns the Terraform schema of a " m,
    codeLine 0 ("func " ++ m.header.schemaFunction ++ "() schema.Schema \x7b"),
    codeLine 1 "return schema.Schema\x7b",
    literalLine 2 "Description:         " m.description,
    literalLine 2 "MarkdownDescription: " m.markdown,
    codeLine 2 "Attributes: map[string]schema.Attribute\x7b"]

/-- The lines between the attributes of the schema and the table of names. -/
def tableOpening (m : Model) : List Line :=
  [codeLine 1 "\x7d", codeLine 0 "\x7d", blankLine,
    codeLine 0 ("// " ++ m.header.mappingName
      ++ " maps Terraform attribute names to backend field names."),
    codeLine 0 ("var " ++ m.header.mappingName ++ " = map[string]string\x7b")]

/-- The lines behind the import block. -/
def body (m : Model) : List Line :=
  [blankLine,
    remarkLine m.header.modelName " describes the Terraform state of a " m,
    codeLine 0 ("type " ++ m.header.modelName ++ " struct \x7b")]
  ++ m.attributes.map fieldLine ++ [codeLine 0 "\x7d"] ++ schemaOpening m
  ++ m.attributes.flatMap attributeLines ++ [codeLine 2 "\x7d,"] ++ tableOpening m
  ++ m.mappings.map mappingLine ++ [codeLine 0 "\x7d"]

theorem fileLines_eq (m : Model) :
    fileLines m = opening ++ (imports m.capabilities).map importLine ++ codeLine 0 ")" :: body m := by
  simp only [fileLines, opening, body, schemaOpening, tableOpening, List.append_assoc,
    List.cons_append, List.nil_append]
  rfl

/-- No path has what would end the literal that it stands in. -/
theorem notMem_path {c : Char} (special : c ∈ ['\n', '"', '\\']) (p : Package) :
    c ∉ p.path.toList := by
  simp only [List.mem_cons, List.not_mem_nil, or_false] at special
  have inFramework : c ∉ framework.toList := by
    rw [framework, String.toList_ofList]
    rcases special with rfl | rfl | rfl <;> decide
  have inValidators : c ∉ frameworkValidators.toList := by
    rw [frameworkValidators, String.toList_ofList]
    rcases special with rfl | rfl | rfl <;> decide
  have stem (kind : ValueKind) : c ∉ (packageStem kind).toList := by
    rcases special with rfl | rfl | rfl <;> cases kind <;> decide
  rcases special with rfl | rfl | rfl <;> cases p <;>
    simp [Package.path, Package.directory, Package.name, inFramework, inValidators, stem]

theorem lineChars_remarkLine (name verb : String) (m : Model) :
    lineChars (remarkLine name verb m) = ("// " ++ name ++ verb).toList
      ++ ((oneLine m.displayName).toList ++ (" " ++ m.kind.name ++ ".").toList) := by
  simp [remarkLine]

theorem exists_remark (name verb : String) (m : Model) :
    ∃ remark, lineChars (remarkLine name verb m) = '/' :: '/' :: remark := by
  simp [lineChars_remarkLine]

theorem newline_notMem_remarkLine {name verb : String} (m : Model) (word : Wordlike name)
    (plain : '\n' ∉ verb.toList) : '\n' ∉ lineChars (remarkLine name verb m) := by
  have inName := word.notMem (c := '\n') (by decide)
  have inKind : '\n' ∉ m.kind.name.toList := by cases m.kind <;> decide
  simp [remarkLine, inName, plain, inKind, newline_notMem_oneLine]

theorem newline_notMem_opening {line : Line} (member : line ∈ opening) :
    '\n' ∉ lineChars line := by
  simp only [opening, List.mem_cons, List.not_mem_nil, or_false] at member
  rcases member with rfl | rfl | rfl | rfl | rfl
  · simp [generatorName]
  · exact List.not_mem_nil
  · simp
  · exact List.not_mem_nil
  · simp

theorem newline_notMem_schemaOpening {m : Model} (named : m.WordNames) {line : Line}
    (member : line ∈ schemaOpening m) : '\n' ∉ lineChars line := by
  have inFunction := named.schemaFunction.notMem (c := '\n') (by decide)
  simp only [schemaOpening, List.mem_cons, List.not_mem_nil, or_false] at member
  rcases member with rfl | rfl | rfl | rfl | rfl | rfl | rfl
  · exact List.not_mem_nil
  · exact newline_notMem_remarkLine m named.schemaFunction (by decide)
  all_goals simp [literalLine, inFunction, newline_notMem_literalChars]

theorem newline_notMem_tableOpening {m : Model} (named : m.WordNames) {line : Line}
    (member : line ∈ tableOpening m) : '\n' ∉ lineChars line := by
  have inTable := named.mappingName.notMem (c := '\n') (by decide)
  simp only [tableOpening, List.mem_cons, List.not_mem_nil, or_false] at member
  rcases member with rfl | rfl | rfl | rfl | rfl
  case inr.inr.inl => exact List.not_mem_nil
  all_goals simp [inTable]

/-- No line of a file has a line break in it, whatever the free texts of the model are. -/
theorem newline_notMem_fileLines {m : Model} (named : m.WordNames) {line : Line}
    (member : line ∈ fileLines m) : '\n' ∉ lineChars line := by
  have inModel := named.modelName.notMem (c := '\n') (by decide)
  simp only [fileLines_eq, body, List.mem_append, List.mem_cons, List.mem_map, List.mem_flatMap,
    List.not_mem_nil, or_false, or_assoc] at member
  rcases member with inOpening | ⟨path, listed, rfl⟩ | rfl | rfl | rfl | rfl | ⟨a, member, rfl⟩ | rfl
    | inSchema | ⟨a, member, inLines⟩ | rfl | inTable | ⟨mapping, member, rfl⟩ | rfl
  · exact newline_notMem_opening inOpening
  · obtain ⟨p, _, rfl⟩ := mem_imports_iff.mp listed
    simp [importLine, notMem_path]
  · decide
  · exact List.not_mem_nil
  · exact newline_notMem_remarkLine m named.modelName (by decide)
  · simp [inModel]
  · exact newline_notMem_fieldLine (named.fieldNames a member) (named.names a member)
  · decide
  · exact newline_notMem_schemaOpening named inSchema
  · rw [attributeLines_eq] at inLines
    obtain ⟨p, _, inPart⟩ := List.mem_flatMap.mp inLines
    exact newline_notMem_part inPart
  · decide
  · exact newline_notMem_tableOpening named inTable
  · simp [mappingLine, newline_notMem_literalChars]
  · decide

/-- The import block ends at its parenthesis, for no line before is one. -/
theorem ne_importEnd {m : Model} {line : Line}
    (member : line ∈ opening ++ (imports m.capabilities).map importLine) :
    lineChars line ≠ lineChars (codeLine 0 ")") := by
  rcases List.mem_append.mp member with inOpening | isPath
  · have other : ∀ line ∈ opening, lineChars line ≠ lineChars (codeLine 0 ")") := by
      decide +kernel
    exact other line inOpening
  · obtain ⟨path, _, rfl⟩ := List.mem_map.mp isPath
    simp [importLine]

end ConnectorSchema.Go
