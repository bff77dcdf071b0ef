import ConnectorSchema.Proofs.Blanking
import ConnectorSchema.Proofs.ImportUse

/-!
Free text and the structure of a file. Two models of one shape may differ in their display names,
descriptions and backend names, and in the texts of their defaults and validators; their files have the
same lines but for what stands in literals and for the display name in the comments
(`Go.skeleton_of_sameShape`).
-/

namespace ConnectorSchema

/-- The same default, or two texts. -/
inductive Default.SameShape : Default → Default → Prop where
  | same (d : Default) : SameShape d d
  | string (s t : String) : SameShape (.string s) (.string t)

/-- The same validator, or equally many texts to choose from. -/
inductive Validator.SameShape : Validator → Validator → Prop where
  | same (v : Validator) : SameShape v v
  | oneOf {values others : List String} : values.length = others.length →
      SameShape (.oneOf values) (.oneOf others)

/-- Attributes that differ in their descriptions, in a backend name that both have, and in the texts
of their default and their validator at most. -/
structure Attribute.SameShape (a b : Attribute) : Prop where
  fieldName : a.fieldName = b.fieldName
  name : a.name = b.name
  apiName : a.apiName = "" ↔ b.apiName = ""
  kind : a.kind = b.kind
  presence : a.presence = b.presence
  sensitive : a.sensitive = b.sensitive
  default : Option.Rel Default.SameShape a.default? b.default?
  validator : Option.Rel Validator.SameShape a.validator? b.validator?
  stateForUnknown : a.stateForUnknown = b.stateForUnknown
  requiresReplace : a.requiresReplace = b.requiresReplace

structure Model.SameShape (m n : Model) : Prop where
  kind : m.kind = n.kind
  header : m.header = n.header
  attributes : List.Forall₂ Attribute.SameShape m.attributes n.attributes
  capabilities : m.capabilities = n.capabilities

namespace Go

namespace Corresponds

variable {h : Header} {kind : EntityKind}

theorem literalLine {label : String} (tabs : Nat) (value other : String)
    (labelled : Place.after (.code []) label.toList = .code []) :
    Corresponds h kind [Go.literalLine tabs label value] [Go.literalLine tabs label other] := by
  have shape (s : String) : lineChars (Go.literalLine tabs label s)
      = (List.replicate tabs '\t' ++ label.toList) ++ (literalChars s ++ [',']) := by
    simp [Go.literalLine]
  have opens : Place.after (.code []) (List.replicate tabs '\t' ++ label.toList) = .code [] := by
    rw [Place.after_append, (Reads.tabs tabs).after, labelled]
  exact within (shape value) (shape other) opens (Matches.literal value other []) (by decide)

theorem default {d e : Default} (same : d.SameShape e) :
    Corresponds h kind [.code "\t\t\t\tDefault: " :: defaultSegments d ++ [.code ","]]
      [.code "\t\t\t\tDefault: " :: defaultSegments e ++ [.code ","]] := by
  cases same with
  | same => exact of_uses (uses_default d)
  | string s t =>
    have shape (s : String) :
        lineChars (.code "\t\t\t\tDefault: " :: defaultSegments (.string s) ++ [.code ","])
          = "\t\t\t\tDefault: stringdefault.StaticString(".toList
            ++ (literalChars s ++ [')', ',']) := by
      simp [defaultSegments]
    exact within (shape s) (shape t) (by decide) (Matches.literal s t []) (by decide)

theorem validator {v w : Validator} (valueKind : ValueKind) (same : v.SameShape w) :
    Corresponds h kind [.code "\t\t\t\t\t" :: validatorSegments valueKind v ++ [.code ","]]
      [.code "\t\t\t\t\t" :: validatorSegments valueKind w ++ [.code ","]] := by
  cases same with
  | same => exact of_uses (uses_validator valueKind v)
  | @oneOf values others length =>
    have shape (values : List String) :
        lineChars (.code "\t\t\t\t\t" :: validatorSegments valueKind (.oneOf values) ++ [.code ","])
          = ("\t\t\t\t\t".toList ++ (packageStem valueKind).toList ++ "validator.OneOf(".toList)
            ++ (lineChars (Go.literalList values) ++ [')', ',']) := by
      simp [validatorSegments]
    have opens : Place.after (.code [])
        ("\t\t\t\t\t".toList ++ (packageStem valueKind).toList ++ "validator.OneOf(".toList)
          = .code [] := by
      cases valueKind <;> decide
    exact within (shape values) (shape others) opens (Matches.literalList length) (by decide)

theorem mappingLine (name apiName other : String) :
    Corresponds h kind [Go.mappingLine (name, apiName)] [Go.mappingLine (name, other)] := by
  have shape (s : String) : lineChars (Go.mappingLine (name, s))
      = ('\t' :: (literalChars name ++ [':', ' '])) ++ (literalChars s ++ [',']) := by
    simp [Go.mappingLine]
  have tab : Reads (.code []) ['\t'] [] (.code []) := by decide
  have colon : Reads (.code []) [':', ' '] [] (.code []) := by decide
  have opens := (tab.append ((Reads.literal name []).append colon)).after
  exact within (shape apiName) (shape other) opens (Matches.literal apiName other []) (by decide)

end Corresponds

section

variable {a b : Attribute}

theorem planModifiers_eq (same : a.SameShape b) : planModifiers a = planModifiers b := by
  rw [planModifiers, planModifiers, same.stateForUnknown, same.requiresReplace, same.kind]

theorem isSome_validator (same : a.SameShape b) : a.validator?.isSome = b.validator?.isSome := by
  have alike := same.validator
  generalize a.validator? = v, b.validator? = w at alike ⊢
  cases alike <;> rfl

/-- Part by part, the lines of two attributes of one shape differ within literals only. -/
theorem corresponds_part (h : Header) (kind : EntityKind) (same : a.SameShape b) (p : Part) :
    Corresponds h kind (p.lines a) (p.lines b) := by
  have kept (other : p ≠ .default) (lines : p.lines a = p.lines b) :
      Corresponds h kind (p.lines a) (p.lines b) := by
    rw [← lines]
    exact Corresponds.of_uses (Uses.each fun line member =>
      uses_of_mem_lines (fun isDefault => absurd isDefault other) member)
  cases p with
  | description | markdown => exact Corresponds.literalLine 4 _ _ (by decide)
  | default =>
    have texts := same.default
    rw [Part.lines, Part.lines]
    generalize a.default? = d, b.default? = e at texts ⊢
    cases texts with
    | none => exact Corresponds.of_uses Uses.nil
    | some alike => exact Corresponds.default alike
  | validator =>
    have texts := same.validator
    rw [Part.lines, Part.lines, same.kind]
    generalize a.validator? = v, b.validator? = w at texts ⊢
    cases texts with
    | none => exact Corresponds.of_uses Uses.nil
    | some alike => exact Corresponds.validator b.kind alike
  | head | required | optional | computed | sensitive | elementType | validatorsOpening
    | validatorsEnd | modifiersOpening | modifiers | modifiersEnd | close =>
    refine kept (by decide) ?_
    simp only [Part.lines, same.name, same.kind, same.presence, same.sensitive, isSome_validator same,
      planModifiers_eq same]

theorem corresponds_attributeLines (h : Header) (kind : EntityKind) (same : a.SameShape b) :
    Corresponds h kind (attributeLines a) (attributeLines b) := by
  rw [attributeLines_eq, attributeLines_eq]
  exact Corresponds.flatMap (List.forall₂_same.mpr fun p _ => corresponds_part h kind same p)

end

theorem Corresponds.remark {h : Header} {kind : EntityKind} {name verb : String} {m n : Model}
    (word : Wordlike name) (plain : '\n' ∉ verb.toList)
    (same : veil h kind (lineChars (remarkLine name verb m))
      = veil h kind (lineChars (remarkLine name verb n))) :
    Corresponds h kind [remarkLine name verb m] [remarkLine name verb n] := by
  have blanked (k : Model) : blankFrom (.code []) (lineChars (remarkLine name verb k))
      = lineChars (remarkLine name verb k) := by
    obtain ⟨remark, shape⟩ := exists_remark name verb k
    exact blankFrom_comment shape (newline_notMem_remarkLine k word plain)
  refine ⟨?_, (uses_remarkLine m word plain).after, (uses_remarkLine n word plain).after⟩
  simp only [List.map_cons, List.map_nil, skeletonFrom, blanked, same]

/-- The comment on the structure is veiled alike for all display names. -/
theorem veil_modelRemark (h : Header) (m : Model) : veil h m.kind
    (lineChars (remarkLine h.modelName " describes the Terraform state of a " m))
      = veil h m.kind (("// " ++ h.modelName ++ " describes the Terraform state of a ").toList
        ++ (" " ++ m.kind.name ++ ".").toList) := by
  have bare := hollow_between ("// " ++ h.modelName ++ " describes the Terraform state of a ").toList []
    (" " ++ m.kind.name ++ ".").toList
  rw [List.nil_append] at bare
  simp only [veil, lineChars_remarkLine, hollow_between, bare]

/-- The comment on the function begins like no comment on a structure. -/
theorem veil_schemaRemark {h : Header} (modelName : Wordlike h.modelName)
    (schemaFunction : Wordlike h.schemaFunction) (m : Model) : veil h m.kind
    (lineChars (remarkLine h.schemaFunction " returns the Terraform schema of a " m))
      = ("// " ++ h.schemaFunction ++ " returns the Terraform schema of a ").toList
        ++ (" " ++ m.kind.name ++ ".").toList := by
  have other : ¬ ("// " ++ h.modelName ++ " describes the Terraform state of a ").toList
      <+: lineChars (remarkLine h.schemaFunction " returns the Terraform schema of a " m) := by
    rintro ⟨rest, same⟩
    have inModel := modelName.notMem (c := ' ') (by decide)
    have inFunction := schemaFunction.notMem (c := ' ') (by decide)
    simp only [remarkLine, lineChars_cons, text_code, String.toList_append, List.append_assoc] at same
    have names := List.append_cancel_left same
    obtain ⟨_, verbs⟩ := cut_unique inModel inFunction names
    exact absurd (List.cons.inj verbs).1 (by decide)
  rw [veil, hollow_other other, lineChars_remarkLine, hollow_between]

/-- The row of an attribute in the table of names, if it has one. -/
def rowLines (a : Attribute) : List Line :=
  if a.apiName = "" then [] else [mappingLine (a.name, a.apiName)]

theorem map_mappingLine (m : Model) :
    m.mappings.map mappingLine = m.attributes.flatMap rowLines := by
  rw [Model.mappings]
  induction m.attributes with
  | nil => rfl
  | cons a rest ih =>
    rw [List.flatMap_cons, ← ih, rowLines]
    by_cases unnamed : a.apiName = ""
    · simp [unnamed]
    · simp [unnamed]

theorem corresponds_rows {m n : Model} (same : m.SameShape n) :
    Corresponds m.header m.kind (m.mappings.map mappingLine) (n.mappings.map mappingLine) := by
  rw [map_mappingLine, map_mappingLine]
  refine Corresponds.flatMap (same.attributes.imp fun a b alike => ?_)
  rw [rowLines, rowLines, ← alike.name]
  by_cases unnamed : a.apiName = ""
  · rw [if_pos unnamed, if_pos (alike.apiName.mp unnamed)]
    exact Corresponds.of_uses Uses.nil
  · rw [if_neg unnamed, if_neg fun empty => unnamed (alike.apiName.mpr empty)]
    exact Corresponds.mappingLine a.name a.apiName b.apiName

theorem after_importLine (p : Package) :
    Place.after (.code []) (text [importLine p.path]) = .code [] := by
  have whole : text [importLine p.path] = ['\t', '"'] ++ (p.path.toList ++ ['"', '\n']) := by
    simp [text, importLine]
  have inside : Reads .string p.path.toList [] .string := Reads.stay fun c member => by
    have notQuote : c ≠ '"' := fun same => notMem_path (c := '"') (by decide) p (same ▸ member)
    have notSlash : c ≠ '\\' := fun same => notMem_path (c := '\\') (by decide) p (same ▸ member)
    simp [Place.next, Place.qualifier?, notQuote, notSlash]
  have opened : Place.after (.code []) ['\t', '"'] = .string := by decide
  rw [whole, Place.after_append, opened, Place.after_append, inside.after]
  decide

section

variable {m n : Model} (named : m.WordNames) (same : m.SameShape n)

include named same

theorem corresponds_schemaOpening :
    Corresponds m.header m.kind (schemaOpening m) (schemaOpening n) := by
  have kept {lines : List Line} {packages : List Package} (uses : Uses lines packages) :
      Corresponds m.header m.kind lines lines := Corresponds.of_uses uses
  have remark : Corresponds m.header m.kind
      [remarkLine m.header.schemaFunction " returns the Terraform schema of a " m]
      [remarkLine m.header.schemaFunction " returns the Terraform schema of a " n] := by
    refine Corresponds.remark named.schemaFunction (by decide) ?_
    rw [veil_schemaRemark named.modelName named.schemaFunction m, same.kind,
      veil_schemaRemark named.modelName named.schemaFunction n]
  have function := kept (uses_schemaFunction named.schemaFunction)
  have result : Uses [codeLine 1 "return schema.Schema\x7b"] [.schema] :=
    Uses.codeLine 1 (by decide)
  have description : Corresponds m.header m.kind
      [literalLine 2 "Description:         " m.description]
      [literalLine 2 "Description:         " n.description] :=
    Corresponds.literalLine 2 _ _ (by decide)
  have markdown : Corresponds m.header m.kind
      [literalLine 2 "MarkdownDescription: " m.markdown]
      [literalLine 2 "MarkdownDescription: " n.markdown] :=
    Corresponds.literalLine 2 _ _ (by decide)
  have attributes : Uses [codeLine 2 "Attributes: map[string]schema.Attribute\x7b"] [.schema] :=
    Uses.codeLine 2 (by decide)
  rw [schemaOpening, schemaOpening, ← same.header]
  exact (kept Uses.blank).append (remark.append (function.append ((kept result).append
    (description.append (markdown.append (kept attributes))))))

theorem corresponds_fields :
    Corresponds m.header m.kind (m.attributes.map fieldLine) (n.attributes.map fieldLine) := by
  have words : ∀ a ∈ m.attributes, Wordlike a.fieldName ∧ Wordlike a.name := fun a member =>
    ⟨named.fieldNames a member, named.names a member⟩
  rw [List.map_eq_flatMap, List.map_eq_flatMap]
  refine Corresponds.flatMap ?_
  refine ((List.forall₂_and_left _ _).mpr ⟨words, same.attributes⟩).imp ?_
  rintro a b ⟨⟨fieldName, name⟩, alike⟩
  have line : fieldLine a = fieldLine b := by
    rw [fieldLine, fieldLine, alike.fieldName, alike.kind, alike.name]
  rw [← line]
  exact Corresponds.of_uses (uses_fieldLine fieldName name)

theorem corresponds_body : Corresponds m.header m.kind (body m) (body n) := by
  have kept {lines : List Line} {packages : List Package} (uses : Uses lines packages) :
      Corresponds m.header m.kind lines lines := Corresponds.of_uses uses
  have remark : Corresponds m.header m.kind
      [remarkLine m.header.modelName " describes the Terraform state of a " m]
      [remarkLine m.header.modelName " describes the Terraform state of a " n] := by
    refine Corresponds.remark named.modelName (by decide) ?_
    rw [veil_modelRemark m.header m, same.kind, veil_modelRemark m.header n]
  have struct := kept (uses_structOpening named.modelName)
  have brace : Uses [codeLine 0 "\x7d"] [] := Uses.codeLine 0 (by decide)
  have attributes : Corresponds m.header m.kind (m.attributes.flatMap attributeLines)
      (n.attributes.flatMap attributeLines) :=
    Corresponds.flatMap (same.attributes.imp fun _ _ => corresponds_attributeLines m.header m.kind)
  have attributesEnd : Uses [codeLine 2 "\x7d,"] [] := Uses.codeLine 2 (by decide)
  have table : Corresponds m.header m.kind (tableOpening m) (tableOpening n) := by
    have equal : tableOpening n = tableOpening m := by rw [tableOpening, tableOpening, same.header]
    rw [equal]
    exact kept (uses_tableOpening named)
  have opening := (kept Uses.blank).append (remark.append struct)
  rw [body, body, ← same.header]
  exact (((((((opening.append (corresponds_fields named same)).append (kept brace)).append
    (corresponds_schemaOpening named same)).append attributes).append (kept attributesEnd)).append
      table).append (corresponds_rows same)).append (kept brace)

theorem corresponds_fileLines : Corresponds m.header m.kind (fileLines m) (fileLines n) := by
  have opens : Corresponds m.header m.kind opening opening := Corresponds.of_after (by decide +kernel)
  have listed : Corresponds m.header m.kind ((imports m.capabilities).map importLine)
      ((imports m.capabilities).map importLine) := by
    rw [List.map_eq_flatMap]
    refine Corresponds.flatMap (List.forall₂_same.mpr fun path member => ?_)
    obtain ⟨p, _, rfl⟩ := mem_imports_iff.mp member
    exact Corresponds.of_after (after_importLine p)
  have closes : Corresponds m.header m.kind [codeLine 0 ")"] [codeLine 0 ")"] :=
    Corresponds.of_after (by decide)
  rw [fileLines_eq, fileLines_eq, ← same.capabilities]
  exact (opens.append listed).append (closes.append (corresponds_body named same))

end

/-- Free text cannot change what a file is made of. -/
theorem skeleton_of_sameShape {m n : Model} (namedM : m.WordNames) (namedN : n.WordNames)
    (same : m.SameShape n) :
    ((render m).toList.splitOn '\n').length = ((render n).toList.splitOn '\n').length
      ∧ skeleton m.header m.kind (render m) = skeleton m.header m.kind (render n) := by
  have lines {k : Model} (named : k.WordNames) :
      (render k).toList.splitOn '\n' = (fileLines k).map lineChars ++ [[]] := by
    rw [toList_render]
    exact splitOn_text fun line member => newline_notMem_fileLines named member
  have files := corresponds_fileLines namedM same
  have skeletons : skeleton m.header m.kind (render m) = skeleton m.header m.kind (render n) := by
    rw [skeleton, skeleton, lines namedM, lines namedN, skeletonFrom_append, skeletonFrom_append,
      files.skeleton, files.first, files.second]
  refine ⟨?_, skeletons⟩
  rw [← length_skeletonFrom m.header m.kind (.code []) ((render m).toList.splitOn '\n'),
    ← length_skeletonFrom m.header m.kind (.code []) ((render n).toList.splitOn '\n')]
  exact congrArg List.length skeletons

/-- Quotes, line breaks and comment signs stay within the literals and the comments they stand in. -/
theorem skeleton_of_sameShape_quoted :
    let host (apiName description default : String) (values : List String) : Attribute :=
      ⟨"Host", "host", apiName, .string, .optionalComputed, false, description, description,
        some (.string default), some (.oneOf values), false, true⟩
    let m := Model.ofAttributes "A\n\x7d" [host "db\".host" "\\" "\"); panic(\"" ["//", "\n"]]
    let n := Model.ofAttributes "B" [host "h" "The host." "localhost" ["x", "y"]]
    m.WordNames ∧ n.WordNames ∧ m.SameShape n
      ∧ skeleton m.header m.kind (render m) = skeleton m.header m.kind (render n) := by
  intro host m n
  have namedM : m.WordNames := (Model.ofAttributes_wellNamed _ (by decide) (by decide)).wordNames
  have namedN : n.WordNames := (Model.ofAttributes_wellNamed _ (by decide) (by decide)).wordNames
  have alike : (host "db\".host" "\\" "\"); panic(\"" ["//", "\n"]).SameShape
      (host "h" "The host." "localhost" ["x", "y"]) :=
    ⟨rfl, rfl, by decide, rfl, rfl, rfl, .some (.string _ _), .some (.oneOf rfl), rfl, rfl⟩
  have same : m.SameShape n := ⟨rfl, rfl, .cons alike .nil, rfl⟩
  exact ⟨namedM, namedN, same, (skeleton_of_sameShape namedM namedN same).2⟩

end Go

end ConnectorSchema
