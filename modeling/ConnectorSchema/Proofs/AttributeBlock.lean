import ConnectorSchema.Proofs.AttributeRules
import ConnectorSchema.Proofs.FileLines

/-!
From an entry of a document to the lines about it. An entry that is kept has an attribute in the model
(`Model.exists_attribute`), and the lines of an attribute stand together in the text of the file
(`Go.shows_of_mem_lines`).
-/

namespace ConnectorSchema

/-- Each entry that is kept has its attribute in the model. -/
theorem Model.exists_attribute {kind : EntityKind} {code : String} {d : Document} {m : Model}
    {e : Entry} (accepted : Model.ofDocument kind code d = .ok m) (kept : e ∈ d.keptEntries kind) :
    ∃ a ∈ m.attributes, Attribute.ofEntry e = .ok a := by
  obtain ⟨_, more, found, rfl⟩ := Model.of_accepted accepted
  have image : Attribute.ofEntry e ∈ (d.keptEntries kind).map Attribute.ofEntry :=
    List.mem_map_of_mem kept
  rw [found] at image
  obtain ⟨a, added, same⟩ := List.mem_map.mp image
  exact ⟨a, List.mem_append_right _ added, same.symm⟩

/-- What the attribute of an entry has of its own. -/
theorem Attribute.clauses_of_ofEntry {e : Entry} {a : Attribute} (found : Attribute.ofEntry e = .ok a) :
    a.kind = e.kind ∧ Default.given? e.kind e = .ok a.default?
      ∧ Validator.given? e = .ok a.validator? := by
  obtain ⟨_, default?, validator?, hasDefault, hasValidator, rfl⟩ := Attribute.ofEntry_ok_iff.mp found
  exact ⟨rfl, hasDefault, hasValidator⟩

namespace Go

/-- The file for a model has the lines of an attribute, and this text is one of them. -/
structure Shows (m : Model) (a : Attribute) (line : String) : Prop where
  ofAttribute : line ∈ (attributeLines a).map Line.text
  inFile : ∃ before after : List String, render m
    = String.join ((before ++ (attributeLines a).map Line.text ++ after).map (· ++ "\n"))

/-- The lines of the attributes stand one after the other in the file. -/
theorem attributeLines_infix (m : Model) : m.attributes.flatMap attributeLines <:+: fileLines m := by
  have inBody : m.attributes.flatMap attributeLines <:+: body m := by
    unfold body
    iterate 3 refine List.IsInfix.trans ?_ (List.prefix_append _ _).isInfix
    exact List.infix_append _ _ _
  rw [fileLines_eq]
  exact inBody.trans ((List.suffix_cons _ _).trans (List.suffix_append _ _)).isInfix

theorem shows_of_mem_lines {m : Model} {a : Attribute} {p : Part} {line : Line}
    (member : a ∈ m.attributes) (written : line ∈ p.lines a) : Shows m a (Line.text line) := by
  constructor
  · refine List.mem_map_of_mem ?_
    rw [attributeLines_eq]
    exact List.mem_flatMap.mpr ⟨p, p.mem_order, written⟩
  · obtain ⟨before, after, whole⟩ := attributeLines_infix m
    obtain ⟨earlier, later, attributes⟩ := List.append_of_mem member
    refine ⟨(before ++ earlier.flatMap attributeLines).map Line.text,
      (later.flatMap attributeLines ++ after).map Line.text, ?_⟩
    simp [render, ← whole, attributes, Function.comp_def]

theorem shows_default {m : Model} {a : Attribute} {d : Default} (member : a ∈ m.attributes)
    (has : a.default? = some d) :
    Shows m a (Line.text (.code "\t\t\t\tDefault: " :: defaultSegments d ++ [.code ","])) := by
  refine shows_of_mem_lines (p := .default) member ?_
  simp [Part.lines, has]

theorem shows_validator {m : Model} {a : Attribute} {v : Validator} (member : a ∈ m.attributes)
    (has : a.validator? = some v) :
    Shows m a (Line.text (.code "\t\t\t\t\t" :: validatorSegments a.kind v ++ [.code ","])) := by
  refine shows_of_mem_lines (p := .validator) member ?_
  simp [Part.lines, has]

end Go

end ConnectorSchema
