import ConnectorSchema.Proofs.AttributeBlock
import ConnectorSchema.Proofs.LiteralValue
import ConnectorSchema.Proofs.WrittenFields

/-!
Lists and objects as the default of a JSON editor. The attribute has the text of the value for its
default, the file has a literal for that text, and reading the text gives the value again
(`Model.structuredDefault_of_document`).
-/

namespace ConnectorSchema

open Json

/-- A list or an object is a literal as it is, with the keys that it was read with. -/
theorem Literal.ofValue?_of_structured {node : Node} {room : Nat} {v : Value} {l : Literal}
    (read : readValue room node = .ok v) (structured : ∀ s, node ≠ .scalar s)
    (picked : Literal.ofValue? v = some l) : l.isStructured ∧ l.toValue = v := by
  cases node with
  | scalar s => exact absurd rfl (structured s)
  | list | object =>
    rw [readValue] at read
    obtain ⟨_, _, inside⟩ := enter_eq_ok_iff.mp read
    obtain ⟨_, _, closed⟩ := bind_eq_ok_iff.mp inside
    obtain ⟨_, _, same⟩ := bind_eq_ok_iff.mp closed
    cases same
    cases picked
    exact ⟨rfl, rfl⟩

/-- The default of a JSON editor is the text of the list or object that was written for it. -/
theorem Default.given?_text {e : Entry} {l : Literal} (written : e.input.defaultValue = some l)
    (json : e.input.control = .json) (structured : l.isStructured) :
    given? e.kind e = .ok (some (.string l.toValue.text)) := by
  have kind : e.kind = .string := by rw [Entry.kind, json]; rfl
  cases l with
  | list | object =>
    simp [given?, written, kind, json, ValueKind.admitsDefault, Control.isKnown, Literal.toValue]
  | boolean | integer | double | string => simp [Literal.isStructured] at structured

theorem Go.text_default_string (s : String) :
    Line.text (.code "\t\t\t\tDefault: " :: defaultSegments (.string s) ++ [.code ","])
      = "\t\t\t\tDefault: stringdefault.StaticString(" ++ literal s ++ ")," := by
  have opening : "\t\t\t\tDefault: stringdefault.StaticString("
      = "\t\t\t\tDefault: " ++ "stringdefault.StaticString(" := by
    decide
  simp only [opening, Line.text, Segment.text, defaultSegments, List.cons_append, List.nil_append,
    List.map_cons, List.map_nil, String.join_cons, String.join_nil, String.append_assoc,
    String.append_empty]
  rfl

/-- What a document has for the default of a JSON editor reaches the file, as a literal for a text on one
line that is read as the same value. This last part is a matter of the doubles in it. -/
theorem Model.structuredDefault_of_document {text : String} {d : Document} {kind : EntityKind}
    {code : String} {m : Model} {i : Nat} {e : Entry} {input default : Node}
    (found : Document.ofJson text = .ok d) (accepted : Model.ofDocument kind code d = .ok m)
    (place : d.entries[i]? = some e) (kept : e ∈ d.keptEntries kind)
    (json : e.input.control = .json) (written : Document.InputAt text i input)
    (atDefault : Input.form.WrittenAt .defaultValue input default)
    (structured : ∀ s, default ≠ .scalar s) :
    ∃ v, readValue nestingLimit default = .ok v
      ∧ ∃ a ∈ m.attributes, Attribute.ofEntry e = .ok a
      ∧ ∃ t argument : String, a.default? = some (.string t)
        ∧ Go.Shows m a ("\t\t\t\tDefault: stringdefault.StaticString(" ++ argument ++ "),")
        ∧ (∀ rest, Go.literal? (argument.toList ++ rest) = some (Text.utf8 t.toList, rest))
        ∧ '\n' ∉ t.toList ∧ '\r' ∉ t.toList
        ∧ ((∀ x ∈ v.doubles, x.ReadsBack) → Json.read readValue t = .ok v) := by
  obtain ⟨v, l, read, picked, hasDefault⟩ :=
    Document.default_of_inputAt found place written atDefault (structured _)
  obtain ⟨isStructured, same⟩ := Literal.ofValue?_of_structured read structured picked
  have asText := Default.given?_text hasDefault json isStructured
  obtain ⟨a, member, ofEntry⟩ := Model.exists_attribute accepted kept
  obtain ⟨_, hasText, _⟩ := Attribute.clauses_of_ofEntry ofEntry
  have isDefault : a.default? = some (.string v.text) := by
    rw [← same]
    exact Except.ok.inj (hasText.symm.trans asText)
  have line := Go.shows_default member isDefault
  rw [Go.text_default_string] at line
  refine ⟨v, read, a, member, ofEntry, v.text, Go.literal v.text, isDefault, line, fun rest => ?_,
    v.notMem_text (by decide), v.notMem_text (by decide), fun back => ?_⟩
  · rw [Go.literal, String.toList_ofList]
    exact Go.literal?_literalChars v.text rest
  · rw [read_text]
    exact readValue_node default read back

/-- Of a key that is there twice the last value is kept, and a line break in a string stays an escape. -/
theorem Model.structuredDefault_of_document_keys :
    let half : Number.Double := ⟨false, 4503599627370496, -53, by decide⟩
    let default : Value := .object [("b", .null), ("a", .list [.string "\n\"", .number (.double half)]),
      ("b", .boolean true)]
    let text := (Document.single [("control", .string "json"), ("default", default)]).text
    ∃ d m v, Document.ofJson text = .ok d ∧ Model.ofDocument .source "pg" d = .ok m
      ∧ readValue nestingLimit default.node = .ok v
      ∧ v.text = "\x7b\"a\":[\"\\n\\\"\",0.5],\"b\":true\x7d"
      ∧ ∃ a ∈ m.attributes, ∃ t, a.default? = some (.string t) ∧ '\n' ∉ t.toList
        ∧ Json.read readValue t = .ok v := by
  intro half default text
  obtain ⟨d, m, e, found, accepted, place, kept, json⟩ :=
    @Document.exists_model_single [("control", .string "json"), ("default", default)] .json
      (by decide +kernel)
  have atDefault : Input.form.WrittenAt .defaultValue
      (Value.object [("control", .string "json"), ("default", default)]).node default.node :=
    Document.writtenAt_node (List.mem_cons_of_mem _ List.mem_cons_self) rfl
  obtain ⟨v, read, a, member, _, t, _, isDefault, _, _, noBreak, _, again⟩ :=
    Model.structuredDefault_of_document found accepted place kept json
      (Document.inputAt_single _) atDefault (fun s => Node.noConfusion)
  have evaluates : (readValue nestingLimit default.node).toOption.map (fun v => (v.text, v.doubles))
      = some ("\x7b\"a\":[\"\\n\\\"\",0.5],\"b\":true\x7d", [half]) := by
    decide +kernel
  rw [read] at evaluates
  obtain ⟨written, doubles⟩ := Prod.mk.inj (Option.some.inj evaluates)
  have back : half.ReadsBack := readsBack_iff.mpr (by decide +kernel)
  refine ⟨d, m, v, found, accepted, read, written, a, member, t, isDefault, noBreak,
    again fun x inside => ?_⟩
  rw [doubles, List.mem_singleton] at inside
  exact inside ▸ back

end ConnectorSchema
