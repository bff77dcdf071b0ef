import ConnectorSchema.Proofs.PackageUse

/-!
The import block lists what the code behind it names, no more and no less (`Go.imports_exact`).
-/

namespace ConnectorSchema

/-- A valid attribute has no default of another kind. -/
theorem Attribute.kind_of_default {a : Attribute} (valid : a.violation? = none) {d : Default}
    (found : d ∈ a.default?) : d.kind = a.kind := by
  refine Decidable.byContradiction fun other => ?_
  have mismatch : a.default?.any (·.kind ≠ a.kind) = true := by
    rw [Option.mem_def.mp found]
    simpa using other
  unfold violation? at valid
  simp only [mismatch] at valid
  split at valid <;> simp at valid

theorem Capabilities.forKind_ofAttributes (attributes : List Attribute) (kind : ValueKind) :
    (ofAttributes attributes).forKind kind
      = KindCapabilities.ofAttributes (attributes.filter (·.kind = kind)) := by
  cases kind <;> rfl

namespace Capabilities

variable {attributes : List Attribute} {kind : ValueKind}

theorem default_iff : ((ofAttributes attributes).forKind kind).default ↔
    ∃ a ∈ attributes, a.kind = kind ∧ a.default?.isSome := by
  simp [forKind_ofAttributes, KindCapabilities.ofAttributes]

theorem validators_iff : ((ofAttributes attributes).forKind kind).validators ↔
    ∃ a ∈ attributes, a.kind = kind ∧ a.validator?.isSome := by
  simp [forKind_ofAttributes, KindCapabilities.ofAttributes]

theorem planModifiers_iff : ((ofAttributes attributes).forKind kind).planModifiers ↔
    ∃ a ∈ attributes, a.kind = kind ∧ (a.stateForUnknown ∨ a.requiresReplace) := by
  simp only [forKind_ofAttributes, KindCapabilities.ofAttributes, KindCapabilities.planModifiers,
    Bool.or_eq_true, List.any_eq_true, List.mem_filter, decide_eq_true_eq]
  constructor
  · rintro (⟨a, ⟨member, same⟩, state⟩ | ⟨a, ⟨member, same⟩, replace⟩)
    · exact ⟨a, member, same, Or.inl state⟩
    · exact ⟨a, member, same, Or.inr replace⟩
  · rintro ⟨a, member, same, state | replace⟩
    · exact Or.inl ⟨a, ⟨member, same⟩, state⟩
    · exact Or.inr ⟨a, ⟨member, same⟩, replace⟩

end Capabilities

namespace Go

theorem uses_schemaFunction {name : String} (word : Wordlike name) :
    Uses [codeLine 0 ("func " ++ name ++ "() schema.Schema \x7b")] [.schema] := by
  have shape : lineChars (codeLine 0 ("func " ++ name ++ "() schema.Schema \x7b")) ++ ['\n']
      = "func ".toList ++ (name.toList ++ '(' :: ") schema.Schema \x7b\n".toList) := by
    simp
  exact Uses.declaration shape (by decide) word rfl (by decide) (by decide)

theorem uses_structOpening {name : String} (word : Wordlike name) :
    Uses [codeLine 0 ("type " ++ name ++ " struct \x7b")] [] := by
  have shape : lineChars (codeLine 0 ("type " ++ name ++ " struct \x7b")) ++ ['\n']
      = "type ".toList ++ (name.toList ++ ' ' :: "struct \x7b\n".toList) := by
    simp
  exact Uses.declaration shape (by decide) word rfl (by decide) (by decide)

theorem uses_schemaOpening {m : Model} (named : m.WordNames) :
    Uses (schemaOpening m) [.schema, .schema, .schema] := by
  have remark :
      Uses [remarkLine m.header.schemaFunction " returns the Terraform schema of a " m] [] :=
    uses_remarkLine m named.schemaFunction (by decide)
  have function := uses_schemaFunction named.schemaFunction
  have result : Uses [codeLine 1 "return schema.Schema\x7b"] [.schema] :=
    Uses.codeLine 1 (by decide)
  have description : Uses [literalLine 2 "Description:         " m.description] [] :=
    Uses.literalLine 2 _ (by decide)
  have markdown : Uses [literalLine 2 "MarkdownDescription: " m.markdown] [] :=
    Uses.literalLine 2 _ (by decide)
  have attributes : Uses [codeLine 2 "Attributes: map[string]schema.Attribute\x7b"] [.schema] :=
    Uses.codeLine 2 (by decide)
  exact Uses.blank.append (remark.append (function.append (result.append
    (description.append (markdown.append attributes)))))

theorem uses_tableOpening {m : Model} (named : m.WordNames) : Uses (tableOpening m) [] := by
  have innerEnd : Uses [codeLine 1 "\x7d"] [] := Uses.codeLine 1 (by decide)
  have outerEnd : Uses [codeLine 0 "\x7d"] [] := Uses.codeLine 0 (by decide)
  have inTable := named.mappingName.notMem (c := '\n') (by decide)
  have remark : Uses [codeLine 0 ("// " ++ m.header.mappingName
      ++ " maps Terraform attribute names to backend field names.")] [] := by
    have shape : lineChars (codeLine 0 ("// " ++ m.header.mappingName
        ++ " maps Terraform attribute names to backend field names.")) = '/' :: '/' :: ' ' ::
          (m.header.mappingName.toList
            ++ " maps Terraform attribute names to backend field names.".toList) := by
      simp
    exact Uses.comment shape (by simp [inTable])
  have table : Uses [codeLine 0
      ("var " ++ m.header.mappingName ++ " = map[string]string\x7b")] [] := by
    have shape : lineChars (codeLine 0
        ("var " ++ m.header.mappingName ++ " = map[string]string\x7b")) ++ ['\n'] = "var ".toList
          ++ (m.header.mappingName.toList ++ ' ' :: "= map[string]string\x7b\n".toList) := by
      simp
    exact Uses.declaration shape (by decide) named.mappingName rfl (by decide) (by decide)
  exact innerEnd.append (outerEnd.append (Uses.blank.append (remark.append table)))

theorem uses_mappingLine (mapping : String × String) : Uses [mappingLine mapping] [] := by
  have whole : text [mappingLine mapping] = ['\t'] ++ (literalChars mapping.1 ++ ([':', ' ']
      ++ (literalChars mapping.2 ++ [',', '\n']))) := by
    simp [text, mappingLine]
  have tab : Reads (.code []) ['\t'] [] (.code []) := by decide
  have colon : Reads (.code []) [':', ' '] [] (.code []) := by decide
  have ends : Reads (.code []) [',', '\n'] [] (.code []) := by decide
  rw [Uses, whole]
  exact tab.append ((Reads.literal _ []).append (colon.append ((Reads.literal _ []).append ends)))

/-- The packages that the code behind the import block names. -/
def bodyPackages (m : Model) : List Package :=
  m.attributes.flatMap (fun _ => [.types]) ++ [.schema, .schema, .schema]
    ++ m.attributes.flatMap attributePackages

theorem uses_body {m : Model} (wellNamed : m.WellNamed)
    (matching : ∀ a ∈ m.attributes, ∀ d ∈ a.default?, d.kind = a.kind) :
    Uses (body m) (bodyPackages m) := by
  have named := wellNamed.wordNames
  have remark : Uses [remarkLine m.header.modelName " describes the Terraform state of a " m] [] :=
    uses_remarkLine m named.modelName (by decide)
  have struct := uses_structOpening named.modelName
  have fields : Uses (m.attributes.map fieldLine) (m.attributes.flatMap fun _ => [.types]) := by
    rw [List.map_eq_flatMap]
    exact Uses.flatMap fun a member =>
      uses_fieldLine (named.fieldNames a member) (named.names a member)
  have brace : Uses [codeLine 0 "\x7d"] [] := Uses.codeLine 0 (by decide)
  have attributes :
      Uses (m.attributes.flatMap attributeLines) (m.attributes.flatMap attributePackages) :=
    Uses.flatMap fun a member => uses_attributeLines (matching a member)
  have attributesEnd : Uses [codeLine 2 "\x7d,"] [] := Uses.codeLine 2 (by decide)
  have mappings : Uses (m.mappings.map mappingLine) [] := by
    have silent : (m.mappings.flatMap fun _ => ([] : List Package)) = [] :=
      List.flatMap_eq_nil_iff.mpr fun _ _ => rfl
    rw [List.map_eq_flatMap, ← silent]
    exact Uses.flatMap fun mapping _ => uses_mappingLine mapping
  have opening := (Uses.blank.append (remark.append struct)).append (fields.append brace)
  have schema := (uses_schemaOpening named).append (attributes.append attributesEnd)
  have table := (uses_tableOpening named).append (mappings.append brace)
  simpa [bodyPackages, body] using opening.append (schema.append table)

/-- What in an attribute makes its lines name a package. -/
def Package.UsedBy (a : Attribute) : Package → Prop
  | schema => True
  | types => a.kind = .stringList
  | planModifier => a.stateForUnknown ∨ a.requiresReplace
  | validator => a.validator?.isSome
  | kindDefault kind => a.kind = kind ∧ a.default?.isSome
  | kindPlanModifier kind => a.kind = kind ∧ (a.stateForUnknown ∨ a.requiresReplace)
  | kindValidator kind => a.kind = kind ∧ a.validator?.isSome

theorem planModifiers_ne_nil_iff {a : Attribute} :
    planModifiers a ≠ [] ↔ a.stateForUnknown ∨ a.requiresReplace := by
  cases state : a.stateForUnknown <;> cases replace : a.requiresReplace <;>
    simp [planModifiers, state, replace]

theorem flagLine_ne_nil_iff {flag : Bool} {s : String} : flagLine flag s ≠ [] ↔ flag := by
  cases flag <;> simp [flagLine]

theorem mem_attributePackages_iff {a : Attribute} {p : Package} :
    p ∈ attributePackages a ↔ ∃ part : Part, part.package? a.kind = some p ∧ part.lines a ≠ [] := by
  simp only [attributePackages, List.mem_flatMap, Option.mem_toList]
  constructor
  · rintro ⟨part, _, line, member, names⟩
    exact ⟨part, names, List.ne_nil_of_mem member⟩
  · rintro ⟨part, names, present⟩
    obtain ⟨line, member⟩ := List.exists_mem_of_ne_nil _ present
    exact ⟨part, part.mem_order, line, member, names⟩

theorem mem_attributePackages_iff_usedBy {a : Attribute} {p : Package} :
    p ∈ attributePackages a ↔ p.UsedBy a := by
  rw [mem_attributePackages_iff]
  constructor
  · rintro ⟨part, names, present⟩
    cases part <;> cases names
    case head.refl => trivial
    all_goals simpa [Part.lines, Package.UsedBy, flagLine_ne_nil_iff, planModifiers_ne_nil_iff,
      Option.isSome_iff_ne_none] using present
  · intro used
    cases p with
    | schema => exact ⟨.head, rfl, List.cons_ne_nil _ _⟩
    | types => exact ⟨.elementType, rfl, flagLine_ne_nil_iff.mpr (beq_iff_eq.mpr used)⟩
    | planModifier =>
      have modifiers := planModifiers_ne_nil_iff.mpr used
      exact ⟨.modifiersOpening, rfl, flagLine_ne_nil_iff.mpr (by simpa using modifiers)⟩
    | validator => exact ⟨.validatorsOpening, rfl, flagLine_ne_nil_iff.mpr used⟩
    | kindDefault kind =>
      obtain ⟨rfl, used⟩ := used
      exact ⟨.default, rfl, by simpa [Part.lines, Option.isSome_iff_ne_none] using used⟩
    | kindPlanModifier kind =>
      obtain ⟨rfl, used⟩ := used
      exact ⟨.modifiers, rfl, by simpa [Part.lines] using planModifiers_ne_nil_iff.mpr used⟩
    | kindValidator kind =>
      obtain ⟨rfl, used⟩ := used
      exact ⟨.validator, rfl, by simpa [Part.lines, Option.isSome_iff_ne_none] using used⟩

/-- Packages are needed for the attributes that use them, two of them in any case. -/
theorem Package.neededFor_ofAttributes {attributes : List Attribute} {p : Package} :
    p.NeededFor (Capabilities.ofAttributes attributes) ↔
      p = .schema ∨ p = .types ∨ ∃ a ∈ attributes, p.UsedBy a := by
  cases p with
  | schema | types => simp [NeededFor]
  | planModifier =>
    simp only [NeededFor, Capabilities.anyPlanModifiers, List.any_eq_true,
      Capabilities.planModifiers_iff, reduceCtorEq, false_or, UsedBy]
    constructor
    · rintro ⟨_, _, a, member, _, modified⟩
      exact ⟨a, member, modified⟩
    · rintro ⟨a, member, modified⟩
      exact ⟨a.kind, a.kind.mem_all, a, member, rfl, modified⟩
  | validator =>
    simp only [NeededFor, Capabilities.anyValidators, List.any_eq_true,
      Capabilities.validators_iff, reduceCtorEq, false_or, UsedBy]
    constructor
    · rintro ⟨_, _, a, member, _, validated⟩
      exact ⟨a, member, validated⟩
    · rintro ⟨a, member, validated⟩
      exact ⟨a.kind, a.kind.mem_all, a, member, rfl, validated⟩
  | kindDefault kind => simp [NeededFor, Capabilities.default_iff, UsedBy]
  | kindPlanModifier kind => simp [NeededFor, Capabilities.planModifiers_iff, UsedBy]
  | kindValidator kind => simp [NeededFor, Capabilities.validators_iff, UsedBy]

theorem mem_bodyPackages_iff {m : Model} (inhabited : m.attributes ≠ [])
    (summed : m.capabilities = Capabilities.ofAttributes m.attributes) {p : Package} :
    p ∈ bodyPackages m ↔ p.NeededFor m.capabilities := by
  obtain ⟨a, member⟩ := List.exists_mem_of_ne_nil _ inhabited
  simp only [summed, Package.neededFor_ofAttributes, bodyPackages, List.mem_append, List.mem_flatMap,
    List.mem_cons, List.not_mem_nil, or_false, or_self, mem_attributePackages_iff_usedBy]
  constructor
  · rintro ((⟨_, _, types⟩ | schema) | used)
    · exact Or.inr (Or.inl types)
    · exact Or.inl schema
    · exact Or.inr (Or.inr used)
  · rintro (schema | types | used)
    · exact Or.inl (Or.inr schema)
    · exact Or.inl (Or.inl ⟨a, member, types⟩)
    · exact Or.inr used

/-- The text behind the import block, which ends at the first line that is a parenthesis. -/
def behindImports : List Char → List Char
  | '\n' :: ')' :: '\n' :: rest => rest
  | _ :: rest => behindImports rest
  | [] => []

theorem behindImports_line {line : List Char} (whole : '\n' ∉ line) (rest : List Char) :
    behindImports (line ++ rest) = behindImports rest := by
  induction line with
  | nil => rfl
  | cons c line ih =>
    have notNewline : c ≠ '\n' := fun same => whole (same ▸ List.mem_cons_self)
    have on : behindImports (c :: (line ++ rest)) = behindImports (line ++ rest) := by
      rw [behindImports]
      rintro _ rfl
      contradiction
    rw [List.cons_append, on, ih fun member => whole (List.mem_cons_of_mem _ member)]

/-- Line by line, the text goes on being looked through until the parenthesis. -/
theorem behindImports_text {lines : List Line} (inhabited : lines ≠ [])
    (whole : ∀ line ∈ lines, '\n' ∉ lineChars line)
    (noEnd : ∀ line ∈ lines, lineChars line ≠ lineChars (codeLine 0 ")")) (rest : List Char) :
    behindImports (text lines ++ ')' :: '\n' :: rest) = rest := by
  induction lines with
  | nil => contradiction
  | cons line lines ih =>
    rw [text_cons, List.append_assoc, List.cons_append,
      behindImports_line (whole line List.mem_cons_self)]
    cases lines with
    | nil => rfl
    | cons next lines =>
      have wholeNext := whole next (List.mem_cons_of_mem _ List.mem_cons_self)
      have notEnd := noEnd next (List.mem_cons_of_mem _ List.mem_cons_self)
      have on : behindImports ('\n' :: (text (next :: lines) ++ ')' :: '\n' :: rest))
          = behindImports (text (next :: lines) ++ ')' :: '\n' :: rest) := by
        rw [behindImports]
        intro tail _ same
        have ends : lineChars next ++ '\n' :: (text lines ++ ')' :: '\n' :: rest)
            = [')'] ++ '\n' :: tail := by
          rw [List.singleton_append, ← same, text_cons, List.append_assoc, List.cons_append]
        exact notEnd (cut_unique wholeNext (by decide) ends).1
      rw [on]
      exact ih (List.cons_ne_nil _ _) (fun l member => whole l (List.mem_cons_of_mem _ member))
        fun l member => noEnd l (List.mem_cons_of_mem _ member)

theorem behindImports_render {m : Model} (named : m.WellNamed) :
    behindImports (render m).toList = text (body m) := by
  have split : (render m).toList
      = text (opening ++ (imports m.capabilities).map importLine) ++ ')' :: '\n' :: text (body m) := by
    simp [toList_render, fileLines_eq, text]
  have before {line : Line} (member : line ∈ opening ++ (imports m.capabilities).map importLine) :
      line ∈ fileLines m := by
    rw [fileLines_eq]
    exact List.mem_append_left _ member
  rw [split]
  exact behindImports_text (List.cons_ne_nil _ _)
    (fun line member => newline_notMem_fileLines named.wordNames (before member))
    (fun line member => ne_importEnd member) _

/-- The import block is what the code behind it uses: each package that may be listed is listed just
when the code names it, every qualifier in the code is a listed package, and the paths increase. -/
theorem imports_exact {m : Model} (named : m.WellNamed) (inhabited : m.attributes ≠ [])
    (valid : ∀ a ∈ m.attributes, a.violation? = none)
    (summed : m.capabilities = Capabilities.ofAttributes m.attributes) :
    (∀ path ∈ imports m.capabilities, ∃ p : Package, path = p.path)
      ∧ (∀ p : Package, p.path ∈ imports m.capabilities ↔
        lastSegment p.path ∈ qualifiers (behindImports (render m).toList))
      ∧ (∀ q ∈ qualifiers (behindImports (render m).toList),
        ∃ path ∈ imports m.capabilities, lastSegment path = q)
      ∧ (imports m.capabilities).Pairwise (· < ·) := by
  have matching : ∀ a ∈ m.attributes, ∀ d ∈ a.default?, d.kind = a.kind :=
    fun a member d found => a.kind_of_default (valid a member) found
  have found : qualifiers (behindImports (render m).toList) = (bodyPackages m).map Package.name := by
    rw [behindImports_render named]
    exact (uses_body named matching).qualifiers
  have listed (p : Package) : p.path ∈ imports m.capabilities ↔ p ∈ bodyPackages m := by
    rw [mem_bodyPackages_iff inhabited summed, mem_imports_iff]
    constructor
    · rintro ⟨q, needed, same⟩
      rwa [Package.path_injective same]
    · exact fun needed => ⟨p, needed, rfl⟩
  refine ⟨fun path member => ?_, fun p => ?_, fun q member => ?_, imports_sorted _⟩
  · obtain ⟨p, _, same⟩ := mem_imports_iff.mp member
    exact ⟨p, same⟩
  · rw [found, lastSegment_path, listed]
    constructor
    · exact fun member => List.mem_map.mpr ⟨p, member, rfl⟩
    · intro member
      obtain ⟨q, inBody, same⟩ := List.mem_map.mp member
      rwa [← Package.name_injective same]
  · rw [found] at member
    obtain ⟨p, inBody, rfl⟩ := List.mem_map.mp member
    exact ⟨p.path, (listed p).mpr inBody, lastSegment_path p⟩

/-- A description that reads like code makes no package listed. -/
theorem imports_exact_quoted :
    let host : Attribute := ⟨"Host", "host", "db.host", .string, .optionalComputed, false,
      "boolvalidator.Between(1)", "// types.Bool", some (.string "a\"b"), none, false, true⟩
    let m := Model.ofAttributes "A" [host]
    m.WellNamed ∧ m.attributes ≠ [] ∧ (∀ a ∈ m.attributes, a.violation? = none)
      ∧ m.capabilities = Capabilities.ofAttributes m.attributes
      ∧ lastSegment (Package.kindDefault .string).path
        ∈ qualifiers (behindImports (render m).toList)
      ∧ lastSegment (Package.kindValidator .bool).path
        ∉ qualifiers (behindImports (render m).toList) := by
  intro host m
  have named : m.WellNamed := Model.ofAttributes_wellNamed _ (by decide) (by decide)
  have inhabited : m.attributes ≠ [] := List.cons_ne_nil _ _
  have valid : ∀ a ∈ m.attributes, a.violation? = none := by decide
  obtain ⟨_, listed, _, _⟩ := imports_exact named inhabited valid rfl
  refine ⟨named, inhabited, valid, rfl, (listed _).mp ?_, fun quoted => ?_⟩
  · exact mem_imports_iff.mpr ⟨.kindDefault .string, rfl, rfl⟩
  · obtain ⟨p, needed, same⟩ := mem_imports_iff.mp ((listed _).mpr quoted)
    rw [← Package.path_injective same] at needed
    exact Bool.false_ne_true needed

end Go

end ConnectorSchema
