import ConnectorSchema.CommandLine.Run
import ConnectorSchema.Proofs.Except
import ConnectorSchema.Proofs.InertCharacters
import ConnectorSchema.Proofs.Lines

/-!
What `inspect` prints. Under a header there is to be a line for each attribute, with its name, kind,
presence and, if there are any, its flags between tabs. Names, display names and defaults are printed
as they are, so the lines are what they should be exactly when there are no line breaks and tabs in
these (`Command.runInspect_lists_iff`).
-/

namespace ConnectorSchema

/-- There is more to tell of the attribute than its name, kind and presence. -/
def Attribute.IsFlagged (a : Attribute) : Prop :=
  a.sensitive ∨ a.default?.isSome ∨ a.validator?.isSome ∨ a.requiresReplace ∨ a.stateForUnknown

namespace CommandLine

/-- A text that can stand in a field of a line. -/
def IsField (cs : List Char) : Prop := ∀ c ∈ ['\n', '\t'], c ∉ cs

instance (cs : List Char) : Decidable (IsField cs) :=
  decidable_of_iff (['\n', '\t'].all (· ∉ cs)) (by simp [IsField])

/-- The text has these lines, each with a line break at its end and no other. -/
structure IsLines (text : String) (lines : List (List Char)) : Prop where
  closed : text.toList = lines.flatMap fun line => line ++ ['\n']
  whole : ∀ line ∈ lines, '\n' ∉ line

/-- These are the fields of a line about the attribute: its name, kind and presence, and one more
exactly when it is flagged. -/
def Shows (a : Attribute) (fields : List (List Char)) : Prop :=
  ∃ flags? : Option (List Char), (flags?.isSome ↔ a.IsFlagged)
    ∧ fields = [a.name, a.kind.name, a.presence.name].map String.toList ++ flags?.toList

/-- The text has a header and, in order, a line for each attribute of the model. -/
def Lists (m : Model) (out : String) : Prop :=
  ∃ header lines, IsLines out (header :: lines)
    ∧ List.Forall₂ (fun a line => Shows a (line.splitOn '\t')) m.attributes lines

theorem Shows.length_eq {a : Attribute} {fields others : List (List Char)} (one : Shows a fields)
    (other : Shows a others) : fields.length = others.length := by
  obtain ⟨flags?, present, rfl⟩ := one
  obtain ⟨others?, presentToo, rfl⟩ := other
  have same := present.trans presentToo.symm
  cases flags? <;> cases others? <;> simp_all

/-! ## Parts of a text -/

theorem count_closed (lines : List (List Char)) :
    (lines.flatMap fun line => line ++ ['\n']).count '\n'
      = lines.flatten.count '\n' + lines.length := by
  induction lines with
  | nil => rfl
  | cons line rest ih =>
    rw [List.flatMap_cons, List.flatten_cons, List.count_append, List.count_append, ih,
      List.count_append, List.count_singleton_self, List.length_cons]
    omega

theorem count_flatten_eq_zero {x : Char} {parts : List (List Char)} :
    parts.flatten.count x = 0 ↔ ∀ part ∈ parts, x ∉ part := by
  simp [List.count_eq_zero]

theorem IsLines.count_breaks {text : String} {lines : List (List Char)} (isLines : IsLines text lines) :
    text.toList.count '\n' = lines.length := by
  rw [isLines.closed, count_closed, count_flatten_eq_zero.mpr isLines.whole, Nat.zero_add]

/-- What a text was made of are its lines, if there are as many of them. -/
theorem IsLines.eq_of_length {text : String} {lines parts : List (List Char)}
    (isLines : IsLines text lines) (length : parts.length = lines.length)
    (made : text.toList = parts.flatMap fun part => part ++ ['\n']) : parts = lines := by
  have breaks := isLines.count_breaks
  rw [made, count_closed] at breaks
  have whole := count_flatten_eq_zero.mp (show parts.flatten.count '\n' = 0 by omega)
  exact Go.lines_unique whole isLines.whole (made.symm.trans isLines.closed)

theorem count_intercalate {x : Char} {parts : List (List Char)} (some : parts ≠ []) :
    ([x].intercalate parts).count x + 1 = parts.flatten.count x + parts.length := by
  induction parts with
  | nil => exact absurd rfl some
  | cons part rest ih =>
    cases rest with
    | nil => simp
    | cons next others =>
      have later := ih (List.cons_ne_nil _ _)
      rw [List.intercalate_cons_cons, List.flatten_cons, List.count_append, List.count_append,
        List.count_append, List.count_singleton_self, List.length_cons]
      omega

theorem length_splitOn (x : Char) (cs : List Char) : (cs.splitOn x).length = cs.count x + 1 := by
  induction cs with
  | nil => rfl
  | cons c rest ih =>
    rw [List.splitOn_cons_eq_if_modifyHead, List.count_cons]
    split
    · rw [List.length_cons, ih]
    · rw [List.length_modifyHead, ih, Nat.add_zero]

/-- Joined parts are cut into as many again only when the mark between them is in none. -/
theorem notMem_of_length_splitOn {x : Char} {parts : List (List Char)} (some : parts ≠ [])
    (length : (([x].intercalate parts).splitOn x).length = parts.length) :
    ∀ part ∈ parts, x ∉ part := by
  have marks := count_intercalate (x := x) some
  rw [length_splitOn] at length
  exact count_flatten_eq_zero.mp (by omega)

theorem mem_intercalate_iff {x : Char} {between : List Char} (apart : x ∉ between)
    (parts : List (List Char)) : x ∈ between.intercalate parts ↔ ∃ part ∈ parts, x ∈ part := by
  induction parts with
  | nil => simp
  | cons part rest ih =>
    cases rest with
    | nil => simp
    | cons next others =>
      rw [List.intercalate_cons_cons, List.mem_append, List.mem_append, ih]
      simp [apart]

/-! ## The listing -/

/-- What stands between the tabs of the line about an attribute. -/
def attributeFields (a : Attribute) : List (List Char) :=
  [a.name, a.kind.name, a.presence.name].map String.toList
    ++ if attributeFlags a = [] then []
      else [",".toList.intercalate ((attributeFlags a).map String.toList)]

theorem attributeFields_ne_nil (a : Attribute) : attributeFields a ≠ [] := List.cons_ne_nil _ _

theorem toList_attributeLine (a : Attribute) :
    (attributeLine a).toList = ['\t'].intercalate (attributeFields a) ++ ['\n'] := by
  rw [attributeLine, attributeFields]
  split <;> simp [String.toList_intercalate]

/-- The header of a listing. -/
def headerChars (m : Model) : List Char :=
  (m.header.schemaFunction ++ " (" ++ m.displayName ++ " " ++ m.kind.name ++ ")").toList

/-- The header of a model and the lines about its attributes. -/
def listing (m : Model) : String := modelLine m ++ String.join (m.attributes.map attributeLine)

theorem toList_listing (m : Model) : (listing m).toList
    = (headerChars m :: m.attributes.map fun a => ['\t'].intercalate (attributeFields a)).flatMap
      fun line => line ++ ['\n'] := by
  have header : (modelLine m).toList = headerChars m ++ ['\n'] := by
    simp [modelLine, headerChars]
  rw [listing, String.toList_append, header, String.toList_join, List.flatMap_cons, List.flatMap_map,
    List.flatMap_map]
  simp only [toList_attributeLine]

theorem attributeFlags_eq_nil_iff {a : Attribute} : attributeFlags a = [] ↔ ¬ a.IsFlagged := by
  cases default : a.default? <;> simp [attributeFlags, Attribute.IsFlagged, default]

/-- The fields of an attribute are what its line is to show. -/
theorem shows_attributeFields (a : Attribute) : Shows a (attributeFields a) := by
  rw [attributeFields]
  split
  · rename_i none
    refine ⟨.none, ?_, rfl⟩
    simpa using attributeFlags_eq_nil_iff.mp none
  · rename_i flags
    exact ⟨some _, by simpa using attributeFlags_eq_nil_iff.not_left.mp flags, rfl⟩

/-- A listing is as promised exactly when no line breaks are in its header and its fields, and no tabs
in its fields. -/
theorem lists_listing_iff (m : Model) : Lists m (listing m)
    ↔ '\n' ∉ headerChars m
      ∧ ∀ a ∈ m.attributes, ∀ part ∈ attributeFields a, IsField part := by
  have inLine (a : Attribute) : '\n' ∈ ['\t'].intercalate (attributeFields a)
      ↔ ∃ part ∈ attributeFields a, '\n' ∈ part := mem_intercalate_iff (by decide) _
  constructor
  · rintro ⟨header, lines, isLines, each⟩
    have length : (headerChars m
        :: m.attributes.map fun a => ['\t'].intercalate (attributeFields a)).length
        = (header :: lines).length := by simp [each.length_eq]
    obtain ⟨rfl, rfl⟩ := List.cons.inj (isLines.eq_of_length length (toList_listing m))
    rw [List.forall₂_map_right_iff, List.forall₂_same] at each
    refine ⟨isLines.whole _ List.mem_cons_self, fun a member part inFields => ?_⟩
    refine List.forall_mem_cons.mpr ⟨fun inPart => ?_, List.forall_mem_singleton.mpr ?_⟩
    · have line := isLines.whole _ (List.mem_cons_of_mem _ (List.mem_map_of_mem member))
      exact line ((inLine a).mpr ⟨part, inFields, inPart⟩)
    · exact notMem_of_length_splitOn (attributeFields_ne_nil a)
        ((each a member).length_eq (shows_attributeFields a)) part inFields
  · rintro ⟨header, fields⟩
    refine ⟨_, _, ⟨toList_listing m, ?_⟩, ?_⟩
    · refine List.forall_mem_cons.mpr ⟨header, List.forall_mem_map.mpr fun a member broken => ?_⟩
      obtain ⟨part, inFields, inPart⟩ := (inLine a).mp broken
      exact fields a member part inFields '\n' List.mem_cons_self inPart
    · rw [List.forall₂_map_right_iff, List.forall₂_same]
      intro a member
      have tabs : ∀ part ∈ attributeFields a, '\t' ∉ part := fun part inFields =>
        fields a member part inFields '\t' (List.mem_cons_of_mem _ List.mem_cons_self)
      rw [List.splitOn_intercalate '\t' tabs (attributeFields_ne_nil a)]
      exact shows_attributeFields a

/-! ## What can stand in a field -/

theorem isField_append_iff {a b : List Char} : IsField (a ++ b) ↔ IsField a ∧ IsField b := by
  simp only [IsField, List.mem_append, not_or, forall_and]

theorem isField_intercalate_iff {between : List Char} (apart : IsField between)
    (parts : List (List Char)) :
    IsField (between.intercalate parts) ↔ ∀ part ∈ parts, IsField part := by
  constructor
  · intro whole part listed c mark inPart
    exact whole c mark ((mem_intercalate_iff (apart c mark) parts).mpr ⟨part, listed, inPart⟩)
  · intro each c mark member
    obtain ⟨part, listed, inPart⟩ := (mem_intercalate_iff (apart c mark) parts).mp member
    exact each part listed c mark inPart

theorem isField_integer (n : Int) : IsField n.repr.toList := by
  have others : ['\n', '\t'].all (fun c => !Number.isDigit c && c != '-') = true := by decide
  intro c mark member
  have other := List.all_eq_true.mp others c mark
  rcases Number.digit_or_minus_of_mem_repr member with digit | minus
  · simp [digit] at other
  · simp [minus] at other

theorem isField_literal_iff (d : Default) :
    IsField d.literal.toList ↔ ∀ s, d = .string s → IsField s.toList := by
  cases d with
  | string s =>
    have quote : IsField "\"".toList := by decide
    simp only [Default.literal, String.toList_append, isField_append_iff, quote, true_and, and_true,
      Default.string.injEq, forall_eq']
  | int64 n => exact iff_of_true (isField_integer n.toInt) (by simp)
  | bool b =>
    have words : ∀ b, IsField (booleanText b).toList := by decide
    exact iff_of_true (words b) (by simp)

theorem isField_flag (flagged : Bool) {word : String} (isField : IsField word.toList) :
    ∀ flag ∈ if flagged then [word] else [], IsField flag.toList := by
  split
  · exact List.forall_mem_singleton.mpr isField
  · exact List.forall_mem_nil _

/-- The default of a text attribute is all that can keep flags from being a field. -/
theorem isField_attributeFlags_iff (a : Attribute) :
    (∀ flag ∈ attributeFlags a, IsField flag.toList)
      ↔ ∀ s, a.default? = some (.string s) → IsField s.toList := by
  have default : (∀ flag ∈ (a.default?.map fun d => "default=" ++ d.literal).toList,
      IsField flag.toList) ↔ ∀ s, a.default? = some (.string s) → IsField s.toList := by
    have label : IsField "default=".toList := by decide
    cases a.default? with
    | none => simp
    | some d =>
      simp only [Option.map_some, Option.toList_some, List.forall_mem_singleton, String.toList_append,
        isField_append_iff, label, true_and, isField_literal_iff, Option.some.injEq]
  simp only [attributeFlags, List.forall_mem_append, default]
  refine ⟨fun all => all.1.1.1.2, fun isField => ⟨⟨⟨⟨?_, isField⟩, ?_⟩, ?_⟩, ?_⟩⟩
  · exact isField_flag a.sensitive (by decide)
  · exact isField_flag a.validator?.isSome (by decide)
  · exact isField_flag a.requiresReplace (by decide)
  · exact isField_flag a.stateForUnknown (by decide)

theorem isField_attributeFields_iff (a : Attribute) : (∀ part ∈ attributeFields a, IsField part)
    ↔ IsField a.name.toList ∧ ∀ s, a.default? = some (.string s) → IsField s.toList := by
  have kind : IsField a.kind.name.toList := by cases a.kind <;> decide
  have presence : IsField a.presence.name.toList := by cases a.presence <;> decide
  have flags : (∀ part ∈ if attributeFlags a = [] then []
      else [",".toList.intercalate ((attributeFlags a).map String.toList)], IsField part)
      ↔ ∀ flag ∈ attributeFlags a, IsField flag.toList := by
    split
    · rename_i none
      simp [none]
    · rw [List.forall_mem_singleton, isField_intercalate_iff (by decide), List.forall_mem_map]
  rw [attributeFields, List.forall_mem_append, flags, isField_attributeFlags_iff]
  simp [kind, presence]

theorem newline_mem_headerChars_iff {kind : EntityKind} {code : String} {d : Document} {m : Model}
    (accepted : Model.ofDocument kind code d = .ok m) :
    '\n' ∈ headerChars m ↔ '\n' ∈ code.toList ∨ '\n' ∈ d.displayName.toList := by
  have title : '\n' ∉ (Naming.title kind.name).toList := by
    rw [kind.title_eq]
    cases kind <;> decide
  have name : '\n' ∉ kind.name.toList := by cases kind <;> decide
  have codeTitle : '\n' ∈ (Naming.pascal code).toList ↔ '\n' ∈ code.toList := by
    rw [Naming.pascal, String.toList_ofList]
    exact Naming.mem_pascalChars_iff (by decide) (by decide)
  obtain ⟨_, more, _, rfl⟩ := Model.of_accepted accepted
  simp [headerChars, Document.model, Header.of, title, name, codeTitle]

/-- A file system with one document, of a text area with this default in quotes. -/
def oneTextArea (literal : String) : FileSystem :=
  let entry := "\x7b\"name\":\"n\",\"user_defined\":true,\"value\":"
    ++ "\x7b\"control\":\"textarea\",\"default\":" ++ literal ++ "\x7d\x7d"
  let document := "\x7b\"display_name\":\"S\",\"config\":[" ++ entry ++ "]\x7d"
  ⟨.dir [("c.json", .file (Text.bytesOf document))], []⟩

namespace Command

/-- What `inspect` does with a document that has a model. -/
theorem runInspect_of_modeled {fs : FileSystem} {file code : String} {kind : EntityKind} {d : Document}
    {m : Model} (loaded : fs.load file = .ok d) (modeled : Model.ofDocument kind code d = .ok m) :
    (runInspect fs file kind code).status = 0 ∧ (runInspect fs file kind code).out = listing m := by
  simp [runInspect, loaded, modeled, listing]

theorem exists_model_of_status {fs : FileSystem} {file code : String} {kind : EntityKind}
    (accepted : (runInspect fs file kind code).status = 0) :
    ∃ d m, fs.load file = .ok d ∧ Model.ofDocument kind code d = .ok m := by
  cases loaded : fs.load file with
  | error problem => simp [runInspect, loaded] at accepted
  | ok d =>
    cases modeled : Model.ofDocument kind code d with
    | error problem => simp [runInspect, loaded, modeled] at accepted
    | ok m => exact ⟨d, m, rfl, modeled⟩

/-- Whenever `inspect` succeeds, it has printed a header and a line for each attribute exactly when
there is no line break in the code and the display name and no line break and no tab in the names of
entries and the defaults of text attributes. -/
theorem runInspect_lists_iff {fs : FileSystem} {file code : String} {kind : EntityKind}
    (accepted : (runInspect fs file kind code).status = 0) :
    ∃ d m, fs.load file = .ok d ∧ Model.ofDocument kind code d = .ok m
      ∧ (Lists m (runInspect fs file kind code).out
        ↔ '\n' ∉ code.toList ∧ '\n' ∉ d.displayName.toList
          ∧ ∀ a ∈ m.attributes, IsField a.apiName.toList
            ∧ ∀ s, a.default? = some (.string s) → IsField s.toList) := by
  obtain ⟨d, m, loaded, modeled⟩ := exists_model_of_status accepted
  refine ⟨d, m, loaded, modeled, ?_⟩
  rw [(runInspect_of_modeled loaded modeled).2, lists_listing_iff,
    newline_mem_headerChars_iff modeled, not_or, and_assoc]
  refine and_congr_right fun _ => and_congr_right fun _ => forall₂_congr fun a member => ?_
  rw [isField_attributeFields_iff]
  refine and_congr_left fun _ => forall₂_congr fun c mark => not_congr ?_
  refine Model.mem_name_iff modeled member ?_
  rcases List.mem_pair.mp mark with rfl | rfl <;> exact ⟨by decide, by decide, by decide⟩

/-- A default within one line keeps the lines as they should be. -/
theorem runInspect_lists_oneTextArea :
    let ending := runInspect (oneTextArea "\"a b\"") "c.json" .source "pg"
    ending.status = 0 ∧ ∃ d m, (oneTextArea "\"a b\"").load "c.json" = .ok d
      ∧ Model.ofDocument .source "pg" d = .ok m ∧ Lists m ending.out := by
  have shape : ((oneTextArea "\"a b\"").load "c.json").toOption.any (fun d => d.displayName = "S"
      && (Model.ofDocument .source "pg" d).toOption.any fun m => m.attributes.all fun a =>
        IsField a.apiName.toList && a.default?.all (· = .string "a b")) = true := by decide +kernel
  obtain ⟨d, loaded, inDocument⟩ := any_toOption_iff.mp shape
  obtain ⟨displayName, inModel⟩ := Bool.and_eq_true_iff.mp inDocument
  obtain ⟨m, modeled, attributes⟩ := any_toOption_iff.mp inModel
  have accepted := (runInspect_of_modeled loaded modeled).1
  obtain ⟨d', m', loaded', modeled', lists⟩ := runInspect_lists_iff accepted
  cases loaded.symm.trans loaded'
  cases modeled.symm.trans modeled'
  refine ⟨accepted, d, m, loaded, modeled, lists.mpr ⟨by decide, ?_, fun a member => ?_⟩⟩
  · rw [of_decide_eq_true displayName]
    decide
  · obtain ⟨name, default⟩ := Bool.and_eq_true_iff.mp (List.all_eq_true.mp attributes a member)
    refine ⟨of_decide_eq_true name, fun s found => ?_⟩
    simp only [found, Option.all_some, decide_eq_true_eq, Default.string.injEq] at default
    rw [default]
    decide

/-- A default with a line break takes two lines. -/
theorem runInspect_not_lists_broken :
    let ending := runInspect (oneTextArea "\"a\\nb\"") "c.json" .source "pg"
    ending.status = 0 ∧ ∃ d m, (oneTextArea "\"a\\nb\"").load "c.json" = .ok d
      ∧ Model.ofDocument .source "pg" d = .ok m ∧ ¬ Lists m ending.out := by
  have shape : ((oneTextArea "\"a\\nb\"").load "c.json").toOption.any (fun d =>
      (Model.ofDocument .source "pg" d).toOption.any fun m => m.attributes.any fun a =>
        a.default? = some (.string "a\nb")) = true := by decide +kernel
  obtain ⟨d, loaded, inDocument⟩ := any_toOption_iff.mp shape
  obtain ⟨m, modeled, inModel⟩ := any_toOption_iff.mp inDocument
  obtain ⟨a, member, default⟩ := List.any_eq_true.mp inModel
  obtain ⟨accepted, out⟩ := runInspect_of_modeled loaded modeled
  refine ⟨accepted, d, m, loaded, modeled, fun lists => ?_⟩
  rw [out, lists_listing_iff] at lists
  have isField := (isField_attributeFields_iff a).mp (lists.2 a member)
  exact absurd (isField.2 _ (of_decide_eq_true default)) (by decide)

end Command

end CommandLine

end ConnectorSchema
