import ConnectorSchema.Proofs.FileLines
import ConnectorSchema.Proofs.Scan

/-!
Which packages the lines of a file name. `Uses` is about whole lines, between which the scanner stands
in code and in no word, so what a section names follows from what its lines name.
-/

namespace ConnectorSchema.Go

/-- A character that belongs to no word takes the scanner out of the word before it. -/
theorem Reads.leave {c : Char} {text : List Char} {found : List String} {stop : Place}
    (read : Reads (.code []) (c :: text) found stop) (other : isNameChar c = false) (notDot : c ≠ '.')
    (word : List Char) : Reads (.code word) (c :: text) found stop := by
  obtain ⟨qualifiers, after⟩ := read
  have next : (Place.code word).next c = (Place.code []).next c := by
    simp [Place.next, Place.nextInCode, other]
  refine ⟨?_, ?_⟩
  · rw [qualifiersFrom] at qualifiers ⊢
    rw [next, ← qualifiers]
    simp [Place.qualifier?, notDot]
  · rw [Place.after, List.foldl_cons, next]
    exact after

theorem Reads.tabs (n : Nat) : Reads (.code []) (List.replicate n '\t') [] (.code []) :=
  stay fun c member => by rw [List.eq_of_mem_replicate member]; decide

/-- The packages that lines name, in their order. -/
def Uses (lines : List Line) (packages : List Package) : Prop :=
  Reads (.code []) (text lines) (packages.map Package.name) (.code [])

namespace Uses

theorem nil : Uses [] [] := Reads.nil _

theorem append {lines more : List Line} {packages others : List Package}
    (first : Uses lines packages) (second : Uses more others) :
    Uses (lines ++ more) (packages ++ others) := by
  rw [Uses, text, List.flatMap_append, List.map_append]
  exact Reads.append first second

theorem flatMap {α : Type} {xs : List α} {lines : α → List Line} {packages : α → List Package}
    (each : ∀ x ∈ xs, Uses (lines x) (packages x)) :
    Uses (xs.flatMap lines) (xs.flatMap packages) := by
  induction xs with
  | nil => exact nil
  | cons x xs ih =>
    exact (each x List.mem_cons_self).append
      (ih fun y member => each y (List.mem_cons_of_mem _ member))

theorem each {lines : List Line} {packages : List Package}
    (each : ∀ line ∈ lines, Uses [line] packages) : Uses lines (lines.flatMap fun _ => packages) := by
  have alone := flatMap each
  rwa [List.flatMap_singleton'] at alone

/-- A line of code alone. -/
theorem codeLine {s : String} {packages : List Package} (tabs : Nat)
    (read : Reads (.code []) (s.toList ++ ['\n']) (packages.map Package.name) (.code [])) :
    Uses [Go.codeLine tabs s] packages := by
  have line : text [Go.codeLine tabs s] = List.replicate tabs '\t' ++ (s.toList ++ ['\n']) := by
    simp [text, Go.codeLine]
  rw [Uses, line]
  exact (Reads.tabs tabs).append read

theorem literalLine {label : String} (tabs : Nat) (value : String)
    (read : Reads (.code []) label.toList [] (.code [])) :
    Uses [Go.literalLine tabs label value] [] := by
  have line : text [Go.literalLine tabs label value] = List.replicate tabs '\t'
      ++ (label.toList ++ (literalChars value ++ [',', '\n'])) := by
    simp [text, Go.literalLine]
  have ends : Reads (.code []) [',', '\n'] [] (.code []) := by decide
  rw [Uses, line]
  exact (Reads.tabs tabs).append (read.append ((Reads.literal value []).append ends))

theorem blank : Uses [blankLine] [] := by
  have newline : Reads (.code []) ['\n'] [] (.code []) := by decide
  exact newline

/-- A comment names nothing, whatever stands in it. -/
theorem comment {line : Line} {remark : List Char} (shape : lineChars line = '/' :: '/' :: remark)
    (whole : '\n' ∉ lineChars line) : Uses [line] [] := by
  have inRemark : '\n' ∉ remark := fun member =>
    whole (shape ▸ List.mem_cons_of_mem _ (List.mem_cons_of_mem _ member))
  have lineText : text [line] = ['/', '/'] ++ (remark ++ ['\n']) := by
    simp [text, shape]
  have opens : Reads (.code []) ['/', '/'] [] .lineComment := by decide
  have ends : Reads .lineComment ['\n'] [] (.code []) := by decide
  rw [Uses, lineText]
  exact opens.append ((Reads.remark inRemark).append ends)

/-- A line that declares a name. -/
theorem declaration {line : Line} {before name : String} {c : Char} {after : List Char}
    {packages : List Package}
    (shape : lineChars line ++ ['\n'] = before.toList ++ (name.toList ++ c :: after))
    (opens : Reads (.code []) before.toList [] (.code [])) (word : Wordlike name)
    (other : isNameChar c = false) (notDot : c ≠ '.')
    (rest : Reads (.code []) (c :: after) (packages.map Package.name) (.code [])) :
    Uses [line] packages := by
  have whole : text [line] = before.toList ++ (name.toList ++ c :: after) := by
    rw [← shape]
    simp [text]
  rw [Uses, whole]
  exact opens.append ((Reads.word word []).append (rest.leave other notDot name.toList))

/-- A line with one call in it, to a function of this package. -/
theorem call {line : Line} {label opening : String} {arguments word : List Char} {p : Package}
    (shape : lineChars line = label.toList ++ (opening.toList ++ (arguments ++ [')', ','])))
    (labelled : Reads (.code []) label.toList [] (.code []))
    (opens : Reads (.code []) opening.toList [p.name] (.code []))
    (read : Reads (.code []) arguments [] (.code word)) : Uses [line] [p] := by
  have whole : text [line] = label.toList ++ (opening.toList ++ (arguments ++ [')', ',', '\n'])) := by
    simp [text, shape]
  have ends : Reads (.code []) [')', ',', '\n'] [] (.code []) := by decide
  rw [Uses, whole]
  exact labelled.append (opens.append (read.append (ends.leave rfl (by decide) word)))

end Uses

theorem reads_literalList (values : List String) :
    Reads (.code []) (lineChars (literalList values)) [] (.code []) := by
  induction values with
  | nil => exact Reads.nil _
  | cons s rest ih =>
    cases rest with
    | nil =>
      rw [literalList, lineChars_cons, text_literal, lineChars_nil]
      exact (Reads.literal s []).append (Reads.nil _)
    | cons t rest =>
      have comma : Reads (.code []) ", ".toList [] (.code []) := by decide
      have shape : lineChars (literalList (s :: t :: rest))
          = literalChars s ++ (", ".toList ++ lineChars (literalList (t :: rest))) := by
        simp only [literalList, lineChars_cons, text_literal, text_code]
      rw [shape]
      exact (Reads.literal s []).append (comma.append ih)

/-- A default names the package of its own kind. -/
theorem uses_default (d : Default) :
    Uses [.code "\t\t\t\tDefault: " :: defaultSegments d ++ [.code ","]] [.kindDefault d.kind] := by
  have label : Reads (.code []) "\t\t\t\tDefault: ".toList [] (.code []) := by decide
  cases d with
  | string s =>
    have opening : Reads (.code []) "stringdefault.StaticString(".toList ["stringdefault"]
        (.code []) := by
      rw [String.toList_ofList]
      decide
    exact Uses.call (by simp [defaultSegments]) label opening (Reads.literal s [])
  | int64 n =>
    have opening : Reads (.code []) "int64default.StaticInt64(".toList ["int64default"]
        (.code []) := by
      rw [String.toList_ofList]
      decide
    obtain ⟨word, number⟩ := Reads.integer n.toInt
    exact Uses.call (by simp [defaultSegments]) label opening number
  | bool b =>
    have opening : Reads (.code []) "booldefault.StaticBool(".toList ["booldefault"]
        (.code []) := by
      rw [String.toList_ofList]
      decide
    have letters : (booleanText b).toList.all isWordChar := by cases b <;> decide
    exact Uses.call (by simp [defaultSegments]) label opening
      (Reads.word (List.all_eq_true.mp letters) [])

theorem uses_validator (kind : ValueKind) (v : Validator) :
    Uses [.code "\t\t\t\t\t" :: validatorSegments kind v ++ [.code ","]]
      [.kindValidator kind] := by
  have tabs : Reads (.code []) "\t\t\t\t\t".toList [] (.code []) := by decide
  cases v with
  | oneOf values =>
    have opening : Reads (.code []) (packageStem kind ++ "validator.OneOf(").toList
        [packageStem kind ++ "validator"] (.code []) := by
      rw [String.toList_append]
      cases kind <;> rw [packageStem] <;> (repeat rw [String.toList_ofList]) <;> decide
    exact Uses.call (by simp [validatorSegments]) tabs opening (reads_literalList values)
  | between min max =>
    have opening : Reads (.code []) (packageStem kind ++ "validator.Between(").toList
        [packageStem kind ++ "validator"] (.code []) := by
      rw [String.toList_append]
      cases kind <;> rw [packageStem] <;> (repeat rw [String.toList_ofList]) <;> decide
    have comma : Reads (.code []) [',', ' '] [] (.code []) := by decide
    obtain ⟨low, first⟩ := Reads.integer min.toInt
    obtain ⟨high, second⟩ := Reads.integer max.toInt
    have bounds := first.append ((comma.leave rfl (by decide) low).append second)
    exact Uses.call (by simp [validatorSegments]) tabs opening bounds

/-- The line of an attribute's name. -/
theorem uses_head (a : Attribute) :
    Uses [[.code "\t\t\t", .literal a.name, .code (": schema." ++ typeName a.kind ++ "Attribute\x7b")]]
      [.schema] := by
  have type : Reads (.code []) ((": schema." ++ typeName a.kind ++ "Attribute\x7b").toList ++ ['\n'])
      ["schema"] (.code []) := by
    cases a.kind <;> rw [typeName, String.toList_append, String.toList_append] <;>
      (repeat rw [String.toList_ofList]) <;> decide
  have whole : text [[.code "\t\t\t", .literal a.name,
        .code (": schema." ++ typeName a.kind ++ "Attribute\x7b")]]
      = List.replicate 3 '\t' ++ (literalChars a.name
        ++ ((": schema." ++ typeName a.kind ++ "Attribute\x7b").toList ++ ['\n'])) := by
    simp [text]
  rw [Uses, whole]
  exact (Reads.tabs 3).append ((Reads.literal a.name []).append type)

/-- The package that each line of a part names. -/
def Part.package? (kind : ValueKind) : Part → Option Package
  | head => some .schema
  | elementType => some .types
  | default => some (.kindDefault kind)
  | validatorsOpening => some .validator
  | validator => some (.kindValidator kind)
  | modifiersOpening => some .planModifier
  | modifiers => some (.kindPlanModifier kind)
  | required | optional | computed | sensitive | description | markdown | validatorsEnd
    | modifiersEnd | close => none

theorem uses_of_mem_lines {a : Attribute} {p : Part} {line : Line}
    (matching : p = .default → ∀ d ∈ a.default?, d.kind = a.kind) (member : line ∈ p.lines a) :
    Uses [line] (p.package? a.kind).toList := by
  cases p with
  | head =>
    rw [List.mem_singleton.mp member]
    exact uses_head a
  | required | optional | computed | sensitive | elementType | validatorsEnd | modifiersEnd =>
    rw [(mem_flagLine_iff.mp member).2]
    rw [Part.package?]
    exact Uses.codeLine 4 (by rw [String.toList_ofList]; decide)
  | description | markdown =>
    rw [List.mem_singleton.mp member]
    exact Uses.literalLine 4 _ (by rw [String.toList_ofList]; decide)
  | default =>
    obtain ⟨d, found, rfl⟩ := List.mem_map.mp member
    rw [← matching rfl d (Option.mem_toList.mp found)]
    exact uses_default d
  | validatorsOpening | modifiersOpening =>
    rw [(mem_flagLine_iff.mp member).2]
    refine Uses.codeLine 4 ?_
    cases a.kind <;> rw [typeName, String.toList_append, String.toList_append] <;>
      (repeat rw [String.toList_ofList]) <;> decide
  | validator =>
    obtain ⟨v, _, rfl⟩ := List.mem_map.mp member
    exact uses_validator a.kind v
  | modifiers =>
    obtain ⟨m, isModifier, rfl⟩ := List.mem_map.mp member
    refine Uses.codeLine 5 ?_
    rcases mem_planModifiers_iff.mp isModifier with ⟨_, rfl⟩ | ⟨_, rfl⟩ <;> cases a.kind <;>
      rw [packageStem, String.toList_append, String.toList_append] <;>
      (repeat rw [String.toList_ofList]) <;> decide
  | close =>
    rw [List.mem_singleton.mp member]
    rw [Part.package?]
    exact Uses.codeLine 3 (by decide)

/-- The packages that the lines of an attribute name. -/
def attributePackages (a : Attribute) : List Package :=
  Part.order.flatMap fun p => (p.lines a).flatMap fun _ => (p.package? a.kind).toList

theorem uses_attributeLines {a : Attribute} (matching : ∀ d ∈ a.default?, d.kind = a.kind) :
    Uses (attributeLines a) (attributePackages a) := by
  rw [attributeLines_eq]
  exact Uses.flatMap fun p _ => Uses.each fun line member =>
    uses_of_mem_lines (fun _ => matching) member

theorem uses_fieldLine {a : Attribute} (field : Wordlike a.fieldName) (name : Wordlike a.name) :
    Uses [fieldLine a] [.types] := by
  have shape : lineChars (fieldLine a) ++ ['\n'] = "\t".toList ++ (a.fieldName.toList
      ++ ' ' :: ("types.".toList ++ ((typeName a.kind).toList ++ (" \x60tfsdk:\"".toList
        ++ (a.name.toList ++ ['"', '\x60', '\n']))))) := by
    simp [fieldLine]
  have types : Reads (.code []) (' ' :: "types.".toList) ["types"] (.code []) := by decide
  have letters : (typeName a.kind).toList.all isWordChar := by cases a.kind <;> decide
  have tag : Reads (.code []) " \x60tfsdk:\"".toList [] .raw := by decide
  have inTag : Reads .raw a.name.toList [] .raw := Reads.stay fun c member => by
    have notQuote : c ≠ '\x60' := fun same => name.notMem (c := '\x60') (by decide) (same ▸ member)
    simp [Place.next, Place.qualifier?, notQuote]
  have ends : Reads .raw ['"', '\x60', '\n'] [] (.code []) := by decide
  have kind : Reads (.code []) (typeName a.kind).toList [] (.code ([] ++ (typeName a.kind).toList)) :=
    Reads.word (List.all_eq_true.mp letters) []
  have opens := tag.leave rfl (by decide) ([] ++ (typeName a.kind).toList)
  exact Uses.declaration shape (by decide) field rfl (by decide)
    (types.append (kind.append (opens.append (inTag.append ends))))

theorem uses_remarkLine {name verb : String} (m : Model) (word : Wordlike name)
    (plain : '\n' ∉ verb.toList) : Uses [remarkLine name verb m] [] := by
  obtain ⟨remark, shape⟩ := exists_remark name verb m
  exact Uses.comment shape (newline_notMem_remarkLine m word plain)

end ConnectorSchema.Go
