import ConnectorSchema.Proofs.AttributeLines

/-!
Reading an attribute back from its lines. The lines with one label are the lines of one part
(`filter_block`), and from the lines of its parts the attribute follows, but for the backend name
that they do not hold (`Attribute.of_block_eq`).
-/

namespace ConnectorSchema

attribute [ext] Attribute

theorem Presence.eq_of_flags {p q : Presence} (required : p.isRequired = q.isRequired)
    (optional : p.isOptional = q.isOptional) (computed : p.isComputed = q.isComputed) : p = q := by
  cases p <;> cases q <;> revert required optional computed <;> decide

namespace Go

theorem literalList_injective {values others : List String}
    (same : lineChars (literalList values) = lineChars (literalList others)) : values = others := by
  induction values generalizing others with
  | nil => rcases others with _ | ⟨t, _ | _⟩ <;> simp [literalList, literalChars] at same ⊢
  | cons s rest ih =>
    rcases rest with _ | ⟨s', rest⟩ <;> rcases others with _ | ⟨t, _ | ⟨t', others⟩⟩ <;>
      simp only [literalList, lineChars_cons, lineChars_nil, text_literal, text_code] at same
    · simp [literalChars] at same
    · rw [(literalChars_append_inj same).1]
    · have ends := (literalChars_append_inj (r := []) (by simpa using same)).2
      simp at ends
    · simp [literalChars] at same
    · have ends := (literalChars_append_inj same).2
      simp at ends
    · obtain ⟨rfl, tail⟩ := literalChars_append_inj same
      rw [ih (List.append_cancel_left tail)]

theorem defaultSegments_injective {d e : Default}
    (same : lineChars (defaultSegments d) = lineChars (defaultSegments e)) : d = e := by
  cases d with
  | string s =>
    cases e with
    | string t =>
      simp only [defaultSegments, lineChars_cons, text_literal, text_code] at same
      rw [(literalChars_append_inj (List.append_cancel_left same)).1]
    | int64 n => simp [defaultSegments] at same
    | bool c => simp [defaultSegments] at same
  | int64 n =>
    cases e with
    | string t => simp [defaultSegments] at same
    | int64 k =>
      have digits : n.toInt.repr.toList = k.toInt.repr.toList := by
        simpa [defaultSegments] using same
      rw [Int64.toInt_inj.mp (Number.repr_injective digits)]
    | bool c => simp [defaultSegments] at same
  | bool b =>
    cases e with
    | string t => simp [defaultSegments] at same
    | int64 k => simp [defaultSegments] at same
    | bool c => cases b <;> cases c <;> simp [defaultSegments, booleanText] at same ⊢

theorem comma_notMem_repr (n : Int) : ',' ∉ n.repr.toList := by
  intro member
  rcases Number.digit_or_minus_of_mem_repr member with digit | minus
  · exact absurd digit (by decide)
  · exact absurd minus (by decide)

theorem validatorSegments_injective {kind : ValueKind} {v w : Validator}
    (same : lineChars (validatorSegments kind v) = lineChars (validatorSegments kind w)) :
    v = w := by
  cases v with
  | oneOf values =>
    cases w with
    | oneOf others =>
      simp only [validatorSegments, lineChars_cons, lineChars_append, List.cons_append] at same
      have inside := List.append_cancel_right (List.append_cancel_left same)
      rw [literalList_injective inside]
    | between min max => simp [validatorSegments] at same
  | between min max =>
    cases w with
    | oneOf others => simp [validatorSegments] at same
    | between low high =>
      have bounds : min.toInt.repr.toList ++ ',' :: ' ' :: (max.toInt.repr.toList ++ [')'])
          = low.toInt.repr.toList ++ ',' :: ' ' :: (high.toInt.repr.toList ++ [')']) := by
        simpa [validatorSegments] using same
      obtain ⟨first, rest⟩ := cut_unique (comma_notMem_repr _) (comma_notMem_repr _) bounds
      have second := List.append_cancel_right (List.cons.inj rest).2
      rw [Int64.toInt_inj.mp (Number.repr_injective first),
        Int64.toInt_inj.mp (Number.repr_injective second)]

/-- The lines of an attribute as characters. -/
def block (a : Attribute) : List (List Char) := (attributeLines a).map lineChars

theorem block_eq (a : Attribute) :
    block a = Part.order.flatMap fun p => (p.lines a).map lineChars := by
  rw [block, attributeLines_eq, List.map_flatMap]

/-- A part is found in an attribute's lines by its label. -/
theorem filter_block (a : Attribute) {p : Part} (notEnd : p ≠ .validatorsEnd ∧ p ≠ .modifiersEnd) :
    (block a).filter (fun line => label line = (p.label a.kind).toList)
      = (p.lines a).map lineChars := by
  have each (q : Part) :
      ((q.lines a).map lineChars).filter (fun line => label line = (p.label a.kind).toList)
        = if p = q then (p.lines a).map lineChars else [] := by
    split
    · rename_i same
      subst same
      refine List.filter_eq_self.mpr fun line member => ?_
      obtain ⟨l, inPart, rfl⟩ := List.mem_map.mp member
      exact decide_eq_true (label_of_mem_lines inPart)
    · rename_i different
      refine List.filter_eq_nil_iff.mpr fun line member labelled => ?_
      obtain ⟨l, inPart, rfl⟩ := List.mem_map.mp member
      rw [label_of_mem_lines inPart, decide_eq_true_eq, String.toList_inj] at labelled
      rcases Part.label_injective labelled.symm with same | isEnd | isEnd
      · exact different same
      · exact notEnd.1 isEnd
      · exact notEnd.2 isEnd
  rw [block_eq, List.filter_flatMap]
  simp only [each]
  cases p <;> simp [Part.order]

theorem flag_of_lines_eq {f g : Bool} {s : String}
    (same : (flagLine f s).map lineChars = (flagLine g s).map lineChars) : f = g := by
  cases f <;> cases g <;> first | rfl | simp [flagLine] at same

/-- A line that is there when a value is, and that shows the value. -/
theorem option_of_lines_eq {α : Type} {line : α → Line} {x y : Option α}
    (shows : ∀ v w, lineChars (line v) = lineChars (line w) → v = w)
    (same : (x.toList.map line).map lineChars = (y.toList.map line).map lineChars) : x = y := by
  cases x with
  | none =>
    cases y with
    | none => rfl
    | some w => exact absurd same (by simp)
  | some v =>
    cases y with
    | none => exact absurd same (by simp)
    | some w => rw [shows v w (List.cons.inj same).1]

theorem literalLine_injective {tabs : Nat} {label s t : String}
    (same : lineChars (literalLine tabs label s) = lineChars (literalLine tabs label t)) :
    s = t := by
  simp only [literalLine, lineChars_cons, text_literal] at same
  exact (literalChars_append_inj (List.append_cancel_left same)).1

section

variable {a b : Attribute} (kind : a.kind = b.kind) (same : block a = block b)

include kind same

/-- Two attributes of one kind with the same lines agree part by part. -/
theorem lines_eq_of_block_eq {p : Part} (notEnd : p ≠ .validatorsEnd ∧ p ≠ .modifiersEnd) :
    (p.lines a).map lineChars = (p.lines b).map lineChars := by
  rw [← filter_block a notEnd, ← filter_block b notEnd, same, kind]

theorem presence_of_block_eq : a.presence = b.presence := by
  have required := flag_of_lines_eq (lines_eq_of_block_eq kind same (p := .required) (by decide))
  have optional := flag_of_lines_eq (lines_eq_of_block_eq kind same (p := .optional) (by decide))
  have computed := flag_of_lines_eq (lines_eq_of_block_eq kind same (p := .computed) (by decide))
  exact Presence.eq_of_flags required optional computed

theorem description_of_block_eq : a.description = b.description := by
  have lines := lines_eq_of_block_eq kind same (p := .description) (by decide)
  exact literalLine_injective (List.cons.inj lines).1

theorem markdown_of_block_eq : a.markdown = b.markdown := by
  have lines := lines_eq_of_block_eq kind same (p := .markdown) (by decide)
  exact literalLine_injective (List.cons.inj lines).1

theorem default_of_block_eq : a.default? = b.default? := by
  have lines := lines_eq_of_block_eq kind same (p := .default) (by decide)
  refine option_of_lines_eq (fun d e equal => ?_) lines
  simp only [lineChars_cons, lineChars_append, List.cons_append] at equal
  exact defaultSegments_injective (List.append_cancel_right (List.append_cancel_left equal))

theorem validator_of_block_eq : a.validator? = b.validator? := by
  have lines := lines_eq_of_block_eq kind same (p := .validator) (by decide)
  simp only [Part.lines, kind] at lines
  refine option_of_lines_eq (fun v w equal => ?_) lines
  simp only [lineChars_cons, lineChars_append, List.cons_append] at equal
  exact validatorSegments_injective (List.append_cancel_right (List.append_cancel_left equal))

/-- One plan modifier alone shows by its name which of the two it is. -/
theorem planModifiers_of_block_eq :
    a.stateForUnknown = b.stateForUnknown ∧ a.requiresReplace = b.requiresReplace := by
  have lines := lines_eq_of_block_eq kind same (p := .modifiers) (by decide)
  cases sa : a.stateForUnknown <;> cases ra : a.requiresReplace <;>
    cases sb : b.stateForUnknown <;> cases rb : b.requiresReplace <;>
      simp [Part.lines, planModifiers, codeLine, kind, sa, ra, sb, rb] at lines ⊢

/-- An attribute follows from its lines, its field and the backend name, which they do not hold. -/
theorem eq_of_block_eq (fieldName : a.fieldName = b.fieldName) (name : a.name = b.name)
    (apiName : a.apiName = b.apiName) : a = b :=
  Attribute.ext fieldName name apiName kind (presence_of_block_eq kind same)
    (flag_of_lines_eq (lines_eq_of_block_eq kind same (p := .sensitive) (by decide)))
    (description_of_block_eq kind same) (markdown_of_block_eq kind same)
    (default_of_block_eq kind same) (validator_of_block_eq kind same)
    (planModifiers_of_block_eq kind same).1 (planModifiers_of_block_eq kind same).2

end

/-- The line that ends an attribute. -/
def closing : List Char := lineChars (codeLine 3 "\x7d,")

theorem label_of_mem_block {a : Attribute} {line : List Char} (member : line ∈ block a) :
    ∃ p : Part, label line = (p.label a.kind).toList := by
  rw [block_eq] at member
  obtain ⟨p, _, inPart⟩ := List.mem_flatMap.mp member
  obtain ⟨l, written, rfl⟩ := List.mem_map.mp inPart
  exact ⟨p, label_of_mem_lines written⟩

/-- Only the last line of an attribute ends it. -/
theorem block_closed (a : Attribute) :
    ∃ before, block a = before ++ [closing] ∧ closing ∉ before := by
  refine ⟨Part.order.dropLast.flatMap fun p => (p.lines a).map lineChars, ?_, fun member => ?_⟩
  · have last : Part.order = Part.order.dropLast ++ [.close] := rfl
    rw [block_eq]
    exact (congrArg (List.flatMap _) last).trans List.flatMap_append
  · obtain ⟨p, early, inPart⟩ := List.mem_flatMap.mp member
    obtain ⟨l, written, same⟩ := List.mem_map.mp inPart
    have closes : label closing = (Part.close.label a.kind).toList :=
      label_of_mem_lines (a := a) (p := .close) List.mem_cons_self
    rw [← same, label_of_mem_lines written, String.toList_inj] at closes
    rcases Part.label_injective closes.symm with rfl | isEnd | isEnd
    · exact absurd early (by decide)
    · cases isEnd
    · cases isEnd

/-- Lines of attributes one after the other are those of each attribute. -/
theorem blocks_unique {as bs : List Attribute} (same : as.flatMap block = bs.flatMap block) :
    as.map block = bs.map block := by
  induction as generalizing bs with
  | nil =>
    cases bs with
    | nil => rfl
    | cons b bs =>
      obtain ⟨before, closed, _⟩ := block_closed b
      rw [List.flatMap_cons, closed] at same
      simp at same
  | cons a as ih =>
    obtain ⟨before, closed, once⟩ := block_closed a
    cases bs with
    | nil =>
      rw [List.flatMap_cons, closed] at same
      simp at same
    | cons b bs =>
      obtain ⟨before', closed', once'⟩ := block_closed b
      rw [List.flatMap_cons, List.flatMap_cons, closed, closed', List.append_assoc,
        List.append_assoc, List.singleton_append, List.singleton_append] at same
      obtain ⟨rfl, rest⟩ := cut_unique once once' same
      rw [List.map_cons, List.map_cons, closed, closed', ih rest]

end Go

end ConnectorSchema
