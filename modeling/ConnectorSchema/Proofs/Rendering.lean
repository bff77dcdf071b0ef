import Mathlib.Data.List.Nodup
import ConnectorSchema.Proofs.AttributeReading
import ConnectorSchema.Proofs.FileLines

/-!
Rendering loses nothing. The sections of a file are found again by the lines that end them, and the
model, but for its display name, from the sections (`Go.render_injective`).
-/

namespace ConnectorSchema

/-- The table of names tells for each attribute what its backend name is, if it has one. -/
theorem Model.mem_mappings_iff {m : Model} (distinct : (m.attributes.map (·.name)).Nodup)
    {a : Attribute} (member : a ∈ m.attributes) {apiName : String} :
    (a.name, apiName) ∈ m.mappings ↔ apiName = a.apiName ∧ apiName ≠ "" := by
  simp only [mappings, List.mem_map, List.mem_filter, decide_eq_true_eq, Prod.mk.injEq]
  constructor
  · rintro ⟨b, ⟨other, present⟩, sameName, rfl⟩
    rw [List.inj_on_of_nodup_map distinct other member sameName] at present ⊢
    exact ⟨rfl, present⟩
  · rintro ⟨rfl, present⟩
    exact ⟨a, ⟨member, present⟩, rfl, rfl⟩

theorem Model.apiName_eq_of_mappings_eq {m n : Model}
    (distinctM : (m.attributes.map (·.name)).Nodup) (distinctN : (n.attributes.map (·.name)).Nodup)
    (same : m.mappings = n.mappings) {a b : Attribute} (inM : a ∈ m.attributes)
    (inN : b ∈ n.attributes) (name : a.name = b.name) : a.apiName = b.apiName := by
  by_cases present : a.apiName = ""
  · by_contra different
    have listed := (mem_mappings_iff distinctN inN).mpr
      ⟨rfl, fun absent => different (present.trans absent.symm)⟩
    rw [← same, ← name, mem_mappings_iff distinctM inM] at listed
    exact different listed.1.symm
  · have listed := (mem_mappings_iff distinctM inM).mpr ⟨rfl, present⟩
    rw [same, name, mem_mappings_iff distinctN inN] at listed
    exact listed.1

namespace Go

theorem typeName_injective {k l : ValueKind} (same : typeName k = typeName l) : k = l := by
  cases k <;> cases l <;> revert same <;> decide

theorem fieldLine_injective {a b : Attribute} (wordA : Wordlike a.fieldName)
    (wordB : Wordlike b.fieldName) (same : lineChars (fieldLine a) = lineChars (fieldLine b)) :
    a.fieldName = b.fieldName ∧ a.kind = b.kind ∧ a.name = b.name := by
  have spaced (c : Attribute) : lineChars (fieldLine c)
      = '\t' :: (c.fieldName.toList ++ ' ' :: ("types.".toList ++ ((typeName c.kind).toList
        ++ ' ' :: ("`tfsdk:\"".toList ++ (c.name.toList ++ "\"`".toList))))) := by
    simp [fieldLine]
  have plain (kind : ValueKind) : ' ' ∉ (typeName kind).toList := by cases kind <;> decide
  rw [spaced, spaced] at same
  obtain ⟨field, rest⟩ := cut_unique (wordA.notMem (by decide)) (wordB.notMem (by decide))
    (List.cons.inj same).2
  obtain ⟨type, tag⟩ := cut_unique (plain a.kind) (plain b.kind) (List.append_cancel_left rest)
  have name := List.append_cancel_right (List.append_cancel_left tag)
  exact ⟨String.toList_injective field, typeName_injective (String.toList_injective type),
    String.toList_injective name⟩

theorem mappingLine_injective {p q : String × String}
    (same : lineChars (mappingLine p) = lineChars (mappingLine q)) : p = q := by
  simp only [mappingLine, lineChars_cons, text_literal] at same
  obtain ⟨name, rest⟩ := literalChars_append_inj (List.append_cancel_left same)
  exact Prod.ext name (literalChars_append_inj (List.append_cancel_left rest)).1

/-- The lines of a model's file are found again in its text. -/
theorem lines_of_render_eq {m n : Model} (namedM : m.WellNamed) (namedN : n.WellNamed)
    (same : render m = render n) : (fileLines m).map lineChars = (fileLines n).map lineChars := by
  have whole {k : Model} (named : k.WellNamed) :
      ∀ line ∈ (fileLines k).map lineChars, '\n' ∉ line := by
    intro line member
    obtain ⟨l, written, rfl⟩ := List.mem_map.mp member
    exact newline_notMem_fileLines named.wordNames written
  apply lines_unique (whole namedM) (whole namedN)
  have texts : text (fileLines m) = text (fileLines n) := by
    rw [← toList_render, ← toList_render, same]
  rw [List.flatMap_map, List.flatMap_map]
  exact texts

theorem body_of_lines_eq {m n : Model}
    (same : (fileLines m).map lineChars = (fileLines n).map lineChars) :
    (body m).map lineChars = (body n).map lineChars := by
  have inBlock (k : Model) : lineChars (codeLine 0 ")")
      ∉ (opening ++ (imports k.capabilities).map importLine).map lineChars := by
    intro member
    obtain ⟨line, before, isEnd⟩ := List.mem_map.mp member
    exact ne_importEnd before isEnd
  have split (k : Model) : (fileLines k).map lineChars
      = (opening ++ (imports k.capabilities).map importLine).map lineChars
        ++ lineChars (codeLine 0 ")") :: (body k).map lineChars := by
    rw [fileLines_eq, List.map_append, List.map_cons]
  rw [split m, split n] at same
  exact (cut_unique (inBlock m) (inBlock n) same).2

/-- The line that ends the attributes of the schema. -/
def attributesEnd : List Char := lineChars (codeLine 2 "\x7d,")

theorem attributesEnd_notMem (attributes : List Attribute) :
    attributesEnd ∉ attributes.flatMap block := by
  intro member
  obtain ⟨a, _, inBlock⟩ := List.mem_flatMap.mp member
  obtain ⟨p, labelled⟩ := label_of_mem_block inBlock
  have starts : label attributesEnd = ['\t', '\t', '\x7d'] := by decide
  rw [starts] at labelled
  cases p <;> simp [Part.label] at labelled

/-- What the sections of a file say. -/
structure SameSections (m n : Model) : Prop where
  modelName : m.header.modelName = n.header.modelName
  fields : m.attributes.map (lineChars <| fieldLine ·) = n.attributes.map (lineChars <| fieldLine ·)
  schema : (schemaOpening m).map lineChars = (schemaOpening n).map lineChars
  blocks : m.attributes.map block = n.attributes.map block
  table : (tableOpening m).map lineChars = (tableOpening n).map lineChars
  mappings : m.mappings = n.mappings

theorem sections_of_body_eq {m n : Model} (same : (body m).map lineChars = (body n).map lineChars) :
    SameSections m n := by
  have sections (k : Model) : (body k).map lineChars =
      [] :: lineChars (remarkLine k.header.modelName " describes the Terraform state of a " k)
        :: lineChars (codeLine 0 ("type " ++ k.header.modelName ++ " struct \x7b"))
        :: (k.attributes.map (lineChars <| fieldLine ·) ++ "\x7d".toList
          :: ((schemaOpening k).map lineChars ++ (k.attributes.flatMap block ++ attributesEnd
            :: ((tableOpening k).map lineChars
              ++ (k.mappings.map (lineChars <| mappingLine ·) ++ ["\x7d".toList]))))) := by
    simp only [body, blankLine, List.map_append, List.map_cons, List.map_nil, List.map_map,
      List.map_flatMap, List.append_assoc, List.cons_append, List.nil_append, lineChars_nil,
      lineChars_codeLine_zero]
    rfl
  have indented (k : Model) :
      "\x7d".toList ∉ k.attributes.map (lineChars <| fieldLine ·) := by
    simp [fieldLine]
  rw [sections m, sections n] at same
  obtain ⟨_, same⟩ := List.cons.inj same
  obtain ⟨_, same⟩ := List.cons.inj same
  obtain ⟨type, same⟩ := List.cons.inj same
  obtain ⟨fields, same⟩ := cut_unique (indented m) (indented n) same
  obtain ⟨schema, same⟩ := List.append_inj same (by simp [schemaOpening])
  obtain ⟨blocks, same⟩ :=
    cut_unique (attributesEnd_notMem m.attributes) (attributesEnd_notMem n.attributes) same
  obtain ⟨table, same⟩ := List.append_inj same (by simp [tableOpening])
  have mappings := List.append_cancel_right same
  simp only [lineChars_codeLine_zero, String.toList_append] at type
  have modelName := List.append_cancel_left (List.append_cancel_right type)
  exact ⟨String.toList_injective modelName, fields, schema, blocks_unique blocks, table,
    List.map_injective_iff.mpr (fun _ _ => mappingLine_injective) mappings⟩

theorem SameSections.schemaFunction {m n : Model} (same : SameSections m n) :
    m.header.schemaFunction = n.header.schemaFunction := by
  have lines := same.schema
  simp only [schemaOpening, List.map_cons, List.cons.injEq, lineChars_codeLine_zero,
    String.toList_append] at lines
  obtain ⟨_, _, function, _⟩ := lines
  exact String.toList_injective (List.append_cancel_left (List.append_cancel_right function))

theorem SameSections.descriptions {m n : Model} (same : SameSections m n) :
    m.description = n.description ∧ m.markdown = n.markdown := by
  have lines := same.schema
  simp only [schemaOpening, List.map_cons, List.cons.injEq] at lines
  obtain ⟨_, _, _, _, description, markdown, _⟩ := lines
  exact ⟨literalLine_injective description, literalLine_injective markdown⟩

theorem SameSections.mappingName {m n : Model} (same : SameSections m n) :
    m.header.mappingName = n.header.mappingName := by
  have lines := same.table
  simp only [tableOpening, List.map_cons, List.cons.injEq, lineChars_codeLine_zero,
    String.toList_append] at lines
  obtain ⟨_, _, _, _, table, _⟩ := lines
  exact String.toList_injective (List.append_cancel_left (List.append_cancel_right table))

theorem getElem_of_map_eq {α β : Type} {f : α → β} {as bs : List α} (same : as.map f = bs.map f)
    {i : Nat} (inA : i < as.length) (inB : i < bs.length) : f as[i] = f bs[i] := by
  simpa [inA, inB] using congrArg (·[i]?) same

/-- The structure gives each attribute's field, kind and name, its own lines give the rest but for
the backend name, and the table gives that. -/
theorem SameSections.attributes {m n : Model} (same : SameSections m n) (namedM : m.WellNamed)
    (namedN : n.WellNamed) (distinctM : (m.attributes.map (·.name)).Nodup)
    (distinctN : (n.attributes.map (·.name)).Nodup) : m.attributes = n.attributes := by
  have length : m.attributes.length = n.attributes.length := by
    simpa using congrArg List.length same.blocks
  refine List.ext_getElem length fun i inM inN => ?_
  have memberM := List.getElem_mem inM
  have memberN := List.getElem_mem inN
  have field : lineChars (fieldLine m.attributes[i]) = lineChars (fieldLine n.attributes[i]) :=
    getElem_of_map_eq same.fields inM inN
  have lines : block m.attributes[i] = block n.attributes[i] :=
    getElem_of_map_eq same.blocks inM inN
  obtain ⟨fieldName, kind, name⟩ := fieldLine_injective (namedM.fieldNames _ memberM).chars
    (namedN.fieldNames _ memberN).chars field
  have apiName :=
    Model.apiName_eq_of_mappings_eq distinctM distinctN same.mappings memberM memberN name
  exact eq_of_block_eq kind lines fieldName name apiName

/-- Two models with the same file agree in everything that the file is about. -/
theorem render_injective {m n : Model} (namedM : m.WellNamed) (namedN : n.WellNamed)
    (distinctM : (m.attributes.map (·.name)).Nodup) (distinctN : (n.attributes.map (·.name)).Nodup)
    (same : render m = render n) :
    m.header.modelName = n.header.modelName
      ∧ m.header.schemaFunction = n.header.schemaFunction
      ∧ m.header.mappingName = n.header.mappingName
      ∧ m.description = n.description ∧ m.markdown = n.markdown
      ∧ m.attributes = n.attributes := by
  have sections := sections_of_body_eq (body_of_lines_eq (lines_of_render_eq namedM namedN same))
  obtain ⟨description, markdown⟩ := sections.descriptions
  exact ⟨sections.modelName, sections.schemaFunction, sections.mappingName, description, markdown,
    sections.attributes namedM namedN distinctM distinctN⟩

/-- Two models that differ in a line break of the display name have the same file. -/
theorem render_injective_lineBreak :
    let host : Attribute := ⟨"Host", "host", "db.host", .string, .optionalComputed, true, "Host",
      "`Host`", some (.string "a\"b"), some (.oneOf ["a", "b, c"]), false, true⟩
    let m := Model.ofAttributes "A\nB" [host]
    let n := Model.ofAttributes "A B" [host]
    m.WellNamed ∧ n.WellNamed ∧ (m.attributes.map (·.name)).Nodup
      ∧ (n.attributes.map (·.name)).Nodup ∧ m ≠ n ∧ render m = render n
      ∧ m.header.modelName = n.header.modelName ∧ m.attributes = n.attributes := by
  intro host m n
  have namedM : m.WellNamed := Model.ofAttributes_wellNamed _ (by decide) (by decide)
  have namedN : n.WellNamed := Model.ofAttributes_wellNamed _ (by decide) (by decide)
  have distinct : (m.attributes.map (·.name)).Nodup := by decide
  have sameName : oneLine m.displayName = oneLine n.displayName := by
    apply String.toList_injective
    simp [oneLine, m, n, Model.ofAttributes]
  have same : render m = render n := by
    simp only [render, fileLines, remarkLine, sameName]
    rfl
  obtain ⟨modelName, _, _, _, _, attributes⟩ :=
    render_injective namedM namedN distinct distinct same
  exact ⟨namedM, namedN, distinct, distinct, by decide, same, modelName, attributes⟩

end Go

end ConnectorSchema
