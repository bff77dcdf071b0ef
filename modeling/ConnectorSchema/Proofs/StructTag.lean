import ConnectorSchema.Proofs.FileLines
import ConnectorSchema.Proofs.InertCharacters
import ConnectorSchema.Proofs.LiteralValue

/-!
The tag of a field. It is a raw string, and within it the attribute's name stands between quotes as
it is. Read as tags are read, it gives the name back unless there is a character in it that ends a
raw string, ends a quoted text, begins an escape, or may not stand in either of them
(`Model.tags_agree_iff`).
-/

namespace ConnectorSchema

namespace Go

open Text (utf8 utf8_cons utf8_append)

/-- The value of the raw string at the beginning of a text, which has no carriage returns, and the
text behind it. -/
def rawString? : List Char → Option (List Char × List Char)
  | '`' :: text =>
    match text.dropWhile (· ≠ '`') with
    | [] => none
    | _ :: rest => some ((text.takeWhile (· ≠ '`')).filter (· ≠ '\r'), rest)
  | _ => none

/-- What stands before the quote that ends a quoted text, and what behind it. A character behind a
backslash ends nothing. -/
def cutQuoted? : List Char → Option (List Char × List Char)
  | [] => none
  | '"' :: rest => some ([], rest)
  | '\\' :: c :: rest => (cutQuoted? rest).map fun (inside, behind) => ('\\' :: c :: inside, behind)
  | c :: rest => (cutQuoted? rest).map fun (inside, behind) => (c :: inside, behind)

/-- The value of a quoted text with this between its quotes. -/
def unquoted? (inside : List Char) : Option (List UInt8) :=
  match contents? (inside ++ ['"']) with
  | some (bytes, []) => some bytes
  | _ => none

/-- Whether a character may stand in a key of a tag. -/
def isKeyChar (c : Char) : Bool := ' ' < c && c ≠ ':' && c ≠ '"' && c ≠ '\x7f'

theorem cutQuoted?_split {text inside rest : List Char}
    (cut : cutQuoted? text = some (inside, rest)) : text = inside ++ '"' :: rest := by
  fun_induction cutQuoted? text generalizing inside with
  | case1 => cases cut
  | case2 behind =>
    cases cut
    rfl
  | case3 c text ih =>
    obtain ⟨⟨within, behind⟩, later, same⟩ := Option.map_eq_some_iff.mp cut
    cases same
    rw [ih later]
    rfl
  | case4 c text _ _ ih =>
    obtain ⟨⟨within, behind⟩, later, same⟩ := Option.map_eq_some_iff.mp cut
    cases same
    rw [ih later]
    rfl

/-- The first key of a tag, what stands between the quotes behind it, and the rest of the tag. -/
def tagPair? (tag : List Char) : Option (List Char × List Char × List Char) :=
  let pair := tag.dropWhile (· = ' ')
  match pair.takeWhile isKeyChar, pair.dropWhile isKeyChar with
  | c :: key, ':' :: '"' :: text =>
    (cutQuoted? text).map fun (inside, rest) => (c :: key, inside, rest)
  | _, _ => none

theorem tagPair?_shorter {tag key inside rest : List Char}
    (pair : tagPair? tag = some (key, inside, rest)) : rest.length < tag.length := by
  simp only [tagPair?] at pair
  split at pair
  · rename_i c first text _ behind
    obtain ⟨⟨within, after⟩, cut, same⟩ := Option.map_eq_some_iff.mp pair
    cases same
    have quoted := congrArg List.length (cutQuoted?_split cut)
    have length := congrArg List.length behind
    have blanks := (List.dropWhile_suffix (l := tag) (· = ' ')).length_le
    have keys := (List.dropWhile_suffix (l := tag.dropWhile (· = ' ')) isKeyChar).length_le
    simp only [List.length_cons, List.length_append] at quoted length
    change after.length < tag.length
    omega
  · cases pair

/-- The value that a tag has under a key. -/
def tagValue? (key tag : List Char) : Option (List UInt8) :=
  match _ : tagPair? tag with
  | none => none
  | some (name, inside, rest) => if name = key then unquoted? inside else tagValue? key rest
termination_by tag.length
decreasing_by exact tagPair?_shorter (by assumption)

/-- The key under which a tag holds the name of an attribute. -/
def tagKey : List Char := ['t', 'f', 's', 'd', 'k']

/-- The attribute's name in the tag at the beginning of a text. -/
def tagName? (text : List Char) : Option (List UInt8) :=
  (rawString? text).bind fun (tag, _) => tagValue? tagKey tag

theorem tagPair?_tagKey (text : List Char) :
    tagPair? (tagKey ++ ':' :: '"' :: text)
      = (cutQuoted? text).map fun (inside, rest) => (tagKey, inside, rest) := by
  have first : (tagKey ++ ':' :: '"' :: text).dropWhile (· = ' ')
      = tagKey ++ ':' :: '"' :: text := rfl
  rw [tagPair?, first]
  rfl

theorem tagValue?_tagKey (text : List Char) :
    tagValue? tagKey (tagKey ++ ':' :: '"' :: text)
      = (cutQuoted? text).bind fun (inside, _) => unquoted? inside := by
  rw [tagValue?]
  cases cut : cutQuoted? text with
  | none =>
    have pair := (tagPair?_tagKey text).trans (congrArg _ cut)
    split
    · rfl
    · simp_all
  | some parts =>
    have pair := (tagPair?_tagKey text).trans (congrArg _ cut)
    split
    · simp_all
    · rename_i name inside rest found
      rw [pair] at found
      cases found
      rw [if_pos rfl]
      rfl

theorem length_le_utf8 (cs : List Char) : cs.length ≤ (utf8 cs).length := by
  induction cs with
  | nil => exact Nat.le_refl 0
  | cons c cs ih =>
    have byte := (length_utf8EncodeChar c).1
    rw [utf8_cons, List.length_cons, List.length_append]
    omega

/-- The value of a literal has no more bytes than its contents, and as many only when nothing in
them is escaped. -/
theorem contents?_split {text rest : List Char} {bytes : List UInt8}
    (read : contents? text = some (bytes, rest)) :
    ∃ inside, text = inside ++ '"' :: rest ∧ bytes.length ≤ (utf8 inside).length
      ∧ ((utf8 inside).length ≤ bytes.length →
        ∀ c ∈ inside, c ≠ '"' ∧ c ≠ '\\' ∧ c ≠ '\n') := by
  fun_induction contents? text generalizing bytes with
  | case1 => cases read
  | case2 behind =>
    cases read
    exact ⟨[], rfl, Nat.le_refl 0, fun _ _ member => absurd member List.not_mem_nil⟩
  | case3 => cases read
  | case4 c text notQuote first behind taken ih =>
    obtain ⟨⟨more, after⟩, later, same⟩ := Option.map_eq_some_iff.mp read
    cases same
    obtain ⟨inside, split, few, plain⟩ := ih later
    rcases unit?_split taken with ⟨d, shown, notBreak, notSlash, value⟩ | ⟨written, escape, fewer⟩
    · cases shown
      refine ⟨c :: inside, by rw [split]; rfl, ?_, fun most => ?_⟩
      · rw [value, utf8_cons, List.length_append, List.length_append]
        omega
      · rw [value, utf8_cons, List.length_append, List.length_append] at most
        have later := plain (by omega)
        exact List.forall_mem_cons.mpr ⟨⟨notQuote, notSlash, notBreak⟩, later⟩
    · have long := length_le_utf8 ('\\' :: written)
      rw [List.length_cons] at long
      refine ⟨'\\' :: written ++ inside, ?_, ?_, fun most => ?_⟩
      · rw [escape, split, List.append_assoc]
      · rw [utf8_append, List.length_append, List.length_append]
        omega
      · rw [utf8_append, List.length_append, List.length_append] at most
        omega

theorem utf8_filter (p : Char → Bool) (cs : List Char) :
    (utf8 (cs.filter p)).length ≤ (utf8 cs).length
      ∧ ((utf8 cs).length ≤ (utf8 (cs.filter p)).length → ∀ c ∈ cs, p c) := by
  induction cs with
  | nil => exact ⟨Nat.le_refl 0, fun _ c member => absurd member List.not_mem_nil⟩
  | cons c cs ih =>
    obtain ⟨fewer, all⟩ := ih
    have byte := (length_utf8EncodeChar c).1
    rw [utf8_cons, List.length_append]
    by_cases kept : p c
    · rw [List.filter_cons_of_pos kept, utf8_cons, List.length_append]
      refine ⟨by omega, fun most => List.forall_mem_cons.mpr ⟨kept, all (by omega)⟩⟩
    · rw [List.filter_cons_of_neg kept]
      refine ⟨by omega, fun most => ?_⟩
      omega

/-- Characters that a tag does not hold as they are: those that end it or a text within it, the one
that begins an escape, and the two that have no place in it. -/
def tagBreakers : List Char := ['`', '"', '\\', '\n', '\r']

theorem contents?_plain {cs : List Char} (plain : ∀ c ∈ cs, c ∉ tagBreakers) (rest : List Char) :
    contents? (cs ++ '"' :: rest) = some (utf8 cs, rest) := by
  induction cs with
  | nil => exact contents?_end rest
  | cons c cs ih =>
    obtain ⟨first, later⟩ := List.forall_mem_cons.mp plain
    simp only [tagBreakers, List.mem_cons, List.not_mem_nil, or_false, not_or] at first
    obtain ⟨_, notQuote, notSlash, notBreak, _⟩ := first
    have inside : (c :: (cs ++ '"' :: rest)).head? ≠ some '"' := fun quote =>
      notQuote (Option.some.inj quote)
    rw [List.cons_append, contents?_unit inside (unit?_plain notBreak notSlash _), ih later]
    rfl

theorem cutQuoted?_plain {cs : List Char} (plain : ∀ c ∈ cs, c ∉ tagBreakers) (rest : List Char) :
    cutQuoted? (cs ++ '"' :: rest) = some (cs, rest) := by
  induction cs with
  | nil => rw [List.nil_append, cutQuoted?]
  | cons c cs ih =>
    obtain ⟨first, later⟩ := List.forall_mem_cons.mp plain
    simp only [tagBreakers, List.mem_cons, List.not_mem_nil, or_false, not_or] at first
    obtain ⟨_, notQuote, notSlash, _, _⟩ := first
    rw [List.cons_append, cutQuoted?, ih later]
    · rfl
    · exact notQuote
    · exact fun _ _ slash => absurd slash notSlash

theorem unquoted?_plain {cs : List Char} (plain : ∀ c ∈ cs, c ∉ tagBreakers) :
    unquoted? cs = some (utf8 cs) := by
  rw [unquoted?, contents?_plain plain]

/-- The value of a quoted text has no more bytes than the text, and as many only when the text is
plain. -/
theorem unquoted?_split {inside : List Char} {bytes : List UInt8}
    (read : unquoted? inside = some bytes) :
    bytes.length ≤ (utf8 inside).length
      ∧ ((utf8 inside).length ≤ bytes.length →
        ∀ c ∈ inside, c ≠ '"' ∧ c ≠ '\\' ∧ c ≠ '\n') := by
  unfold unquoted? at read
  split at read
  · rename_i value found
    cases read
    obtain ⟨contents, split, few, plain⟩ := contents?_split found
    obtain rfl : inside = contents := List.append_cancel_right split
    exact ⟨few, plain⟩
  · cases read

/-- The tag of an attribute with this name, as it is written. -/
def tagChars (name : List Char) : List Char := '`' :: (tagKey ++ ':' :: '"' :: (name ++ ['"', '`']))

/-- A raw string goes up to the next back quote, so the one in a tag may end within the name. -/
theorem rawString?_tagChars (name rest : List Char) :
    ∃ behind, rawString? (tagChars name ++ rest)
      = some (tagKey ++ ':' :: '"' ::
        ((name ++ '"' :: '`' :: rest).takeWhile (· ≠ '`')).filter (· ≠ '\r'), behind) := by
  have opened : tagChars name ++ rest
      = '`' :: (tagKey ++ ':' :: '"' :: (name ++ '"' :: '`' :: rest)) := by simp [tagChars]
  have ended : '`' ∈ tagKey ++ ':' :: '"' :: (name ++ '"' :: '`' :: rest) := by simp
  have value : ((tagKey ++ ':' :: '"' :: (name ++ '"' :: '`' :: rest)).takeWhile (· ≠ '`')).filter
      (· ≠ '\r') = tagKey ++ ':' :: '"' ::
        ((name ++ '"' :: '`' :: rest).takeWhile (· ≠ '`')).filter (· ≠ '\r') := rfl
  rw [opened, rawString?]
  split
  · rename_i none
    have all := List.dropWhile_eq_nil_iff.mp none '`' ended
    simp at all
  · rename_i behind _
    exact ⟨behind, by rw [value]⟩

theorem tagName?_tagChars_eq (name rest : List Char) :
    tagName? (tagChars name ++ rest)
      = (cutQuoted? (((name ++ '"' :: '`' :: rest).takeWhile (· ≠ '`')).filter (· ≠ '\r'))).bind
        fun (inside, _) => unquoted? inside := by
  obtain ⟨behind, raw⟩ := rawString?_tagChars name rest
  rw [tagName?, raw]
  exact tagValue?_tagKey _

theorem takeWhile_upToBackQuote {before : List Char} (absent : '`' ∉ before) (rest : List Char) :
    (before ++ '`' :: rest).takeWhile (· ≠ '`') = before := by
  have all : ∀ c ∈ before, decide (c ≠ '`') = true := fun c member =>
    decide_eq_true fun same => absent (same ▸ member)
  rw [List.takeWhile_append_of_pos all]
  exact List.append_nil before

/-- A back quote in a name cuts the name short. -/
theorem takeWhile_backQuote {name : List Char} (ended : '`' ∈ name) (rest : List Char) :
    (utf8 ((name ++ rest).takeWhile (· ≠ '`'))).length < (utf8 name).length := by
  obtain ⟨before, after, rfl, absent⟩ := List.eq_append_cons_of_mem ended
  have byte := (length_utf8EncodeChar '`').1
  rw [List.append_assoc, List.cons_append, takeWhile_upToBackQuote absent, utf8_append, utf8_cons,
    List.length_append, List.length_append]
  omega

/-- Without a back quote in the name, the raw string has the name and the quote behind it. -/
theorem takeWhile_closed {name : List Char} (absent : '`' ∉ name) (rest : List Char) :
    (name ++ '"' :: '`' :: rest).takeWhile (· ≠ '`') = name ++ ['"'] := by
  have regrouped : name ++ '"' :: '`' :: rest = (name ++ ['"']) ++ '`' :: rest := by simp
  rw [regrouped]
  exact takeWhile_upToBackQuote (by simpa using absent) rest

section

variable {name rest : List Char}

theorem tagName?_of_plain (plain : ∀ c ∈ name, c ∉ tagBreakers) :
    tagName? (tagChars name ++ rest) = some (utf8 name) := by
  have absent : '`' ∉ name := fun member => plain '`' member (by decide)
  have noReturn : ∀ c ∈ name ++ ['"'], decide (c ≠ '\r') = true := by
    intro c member
    rcases List.mem_append.mp member with inName | isQuote
    · exact decide_eq_true fun same => plain '\r' (same ▸ inName) (by decide)
    · rw [List.mem_singleton.mp isQuote]
      decide
  rw [tagName?_tagChars_eq, takeWhile_closed absent, List.filter_eq_self.mpr noReturn,
    cutQuoted?_plain plain]
  exact unquoted?_plain plain

/-- Whatever breaks a tag makes its value shorter than the name, or leaves no value at all. -/
theorem plain_of_tagName? (read : tagName? (tagChars name ++ rest) = some (utf8 name)) :
    ∀ c ∈ name, c ∉ tagBreakers := by
  rw [tagName?_tagChars_eq] at read
  obtain ⟨⟨inside, after⟩, cut, value⟩ := Option.bind_eq_some_iff.mp read
  -- no way of reading adds bytes, so with as many bytes as the name has, nothing was changed
  obtain ⟨few, plain⟩ := unquoted?_split value
  have quoted := congrArg (fun cs => (utf8 cs).length) (cutQuoted?_split cut)
  simp only [utf8_append, utf8_cons, List.length_append] at quoted
  by_cases ended : '`' ∈ name
  · have short := takeWhile_backQuote ended ('"' :: '`' :: rest)
    have fewer := (utf8_filter (· ≠ '\r') ((name ++ '"' :: '`' :: rest).takeWhile (· ≠ '`'))).1
    omega
  rw [takeWhile_closed ended] at quoted cut
  obtain ⟨fewer, all⟩ := utf8_filter (· ≠ '\r') (name ++ ['"'])
  have atEnd : (utf8 ['"']).length = (String.utf8EncodeChar '"').length := rfl
  rw [utf8_append, List.length_append] at fewer all
  have whole := all (by omega)
  rw [List.filter_eq_self.mpr whole, utf8_append, List.length_append] at quoted
  rw [List.filter_eq_self.mpr whole] at cut
  have nothing := length_le_utf8 after
  obtain rfl : after = [] := List.eq_nil_of_length_eq_zero (by omega)
  obtain rfl : name = inside := List.append_cancel_right (cutQuoted?_split cut)
  intro c member breaks
  obtain ⟨notQuote, notSlash, notBreak⟩ := plain (Nat.le_refl _) c member
  have notReturn := of_decide_eq_true (whole c (List.mem_append_left _ member))
  simp only [tagBreakers, List.mem_cons, List.not_mem_nil, or_false] at breaks
  rcases breaks with rfl | isQuote | isSlash | isBreak | isReturn
  · exact ended member
  · exact notQuote isQuote
  · exact notSlash isSlash
  · exact notBreak isBreak
  · exact notReturn isReturn

/-- A tag gives the name that is written in it exactly when the name is free of what breaks tags. -/
theorem tagName?_tagChars :
    tagName? (tagChars name ++ rest) = some (utf8 name) ↔ ∀ c ∈ name, c ∉ tagBreakers :=
  ⟨plain_of_tagName?, tagName?_of_plain⟩

end

end Go

namespace Go

/-- The lines up to the fields of the structure. -/
def structHead (m : Model) : List Line :=
  opening ++ (imports m.capabilities).map importLine
    ++ [codeLine 0 ")", blankLine,
      remarkLine m.header.modelName " describes the Terraform state of a " m,
      codeLine 0 ("type " ++ m.header.modelName ++ " struct \x7b")]

/-- The file up to the tag of the attribute that comes behind these. -/
def beforeTag (m : Model) (earlier : List Attribute) (a : Attribute) : List Char :=
  text (structHead m ++ earlier.map fieldLine)
    ++ '\t' :: (a.fieldName ++ " types." ++ typeName a.kind ++ " ").toList

/-- The file up to the key of the attribute that comes behind these. -/
def beforeKey (m : Model) (earlier : List Attribute) : List Char :=
  text (structHead m ++ m.attributes.map fieldLine ++ codeLine 0 "\x7d" :: schemaOpening m
    ++ earlier.flatMap attributeLines) ++ ['\t', '\t', '\t']

section

variable {m : Model} {earlier later : List Attribute} {a : Attribute}
  (split : m.attributes = earlier ++ a :: later)

include split

theorem exists_tag : ∃ rest,
    (render m).toList = beforeTag m earlier a ++ (tagChars a.name.toList ++ rest) := by
  have lines : ∃ behind, fileLines m
      = structHead m ++ earlier.map fieldLine ++ fieldLine a :: behind := by
    refine ⟨later.map fieldLine ++ codeLine 0 "\x7d" :: schemaOpening m
      ++ m.attributes.flatMap attributeLines ++ codeLine 2 "\x7d," :: tableOpening m
      ++ m.mappings.map mappingLine ++ [codeLine 0 "\x7d"], ?_⟩
    rw [fileLines_eq, body, structHead]
    nth_rewrite 1 [split]
    simp
  obtain ⟨behind, whole⟩ := lines
  refine ⟨'\n' :: text behind, ?_⟩
  have line : lineChars (fieldLine a) = '\t' :: (a.fieldName ++ " types." ++ typeName a.kind
      ++ " ").toList ++ tagChars a.name.toList := by
    simp [fieldLine, tagChars, tagKey]
  rw [toList_render, whole, text_append, beforeTag]
  simp [text, line]

theorem exists_key : ∃ rest,
    (render m).toList = beforeKey m earlier ++ (literalChars a.name ++ rest) := by
  obtain ⟨inside, lines⟩ : ∃ inside, attributeLines a
      = [.code "\t\t\t", .literal a.name, .code (": schema." ++ typeName a.kind ++ "Attribute\x7b")]
        :: inside := ⟨_, rfl⟩
  have whole : ∃ behind, fileLines m
      = structHead m ++ m.attributes.map fieldLine ++ codeLine 0 "\x7d" :: schemaOpening m
        ++ earlier.flatMap attributeLines ++ attributeLines a ++ behind := by
    refine ⟨later.flatMap attributeLines ++ codeLine 2 "\x7d," :: tableOpening m
      ++ m.mappings.map mappingLine ++ [codeLine 0 "\x7d"], ?_⟩
    have parts : m.attributes.flatMap attributeLines = earlier.flatMap attributeLines
        ++ attributeLines a ++ later.flatMap attributeLines := by simp [split]
    rw [fileLines_eq, body, structHead, parts]
    simp
  obtain ⟨behind, whole⟩ := whole
  refine ⟨(": schema." ++ typeName a.kind ++ "Attribute\x7b").toList
    ++ '\n' :: text (inside ++ behind), ?_⟩
  rw [toList_render, whole, lines, text_append, beforeKey]
  simp [text]

end

end Go

/-- An attribute of an accepted model has in its name just those breakers that are in the name of
the entry behind it. -/
theorem Model.breaker_mem_name_iff {kind : EntityKind} {code : String} {d : Document} {m : Model}
    (accepted : Model.ofDocument kind code d = .ok m) {a : Attribute} (member : a ∈ m.attributes)
    {c : Char} (breaks : c ∈ Go.tagBreakers) : c ∈ a.name.toList ↔ c ∈ a.apiName.toList := by
  refine Model.mem_name_iff accepted member ?_
  simp only [Go.tagBreakers, List.mem_cons, List.not_mem_nil, or_false] at breaks
  rcases breaks with rfl | rfl | rfl | rfl | rfl <;> exact ⟨by decide, by decide, by decide⟩

/-- The attributes that come of a single text field. -/
theorem Model.attributes_of_text {kind : EntityKind} {code displayName name : String} {m : Model}
    (accepted : Model.ofDocument kind code (.ofEntries displayName [.ofControl name .string])
      = .ok m)
    (kept : kind.keeps (.ofControl name .string)) :
    ∃ a, m.attributes = kind.syntheticAttributes ++ [a] ∧ a.name = Naming.attributeName name
      ∧ a.apiName = name := by
  have user : (Document.ofEntries displayName [.ofControl name .string]).userEntries
      = [.ofControl name .string] := rfl
  obtain ⟨_, more, found, rfl⟩ := Model.of_accepted accepted
  rw [Document.keptEntries, user, List.filter_cons_of_pos kept] at found
  have each := forall₂_of_map_ofEntry found
  obtain ⟨a, others, ofEntry, nothing, rfl⟩ := List.forall₂_cons_right_iff.mp each
  obtain rfl := List.forall₂_nil_right_iff.mp nothing
  have called := Attribute.name_of_ofEntry ofEntry
  rw [Entry.attributeName] at called
  exact ⟨a, rfl, called, (Attribute.reflects_of_ofEntry ofEntry).apiName⟩

/-- Each attribute of an accepted model has its tag and its key where its field and its lines in the
schema are. The tag is a raw string and the key a literal for the attribute's name. The tag gives
the same name exactly when there is no breaker in the name of the entry behind the attribute. -/
theorem Model.tags_agree_iff {kind : EntityKind} {code : String} {d : Document} {m : Model}
    (accepted : Model.ofDocument kind code d = .ok m) {earlier later : List Attribute}
    {a : Attribute} (split : m.attributes = earlier ++ a :: later) :
    ∃ tag key, (Go.render m).toList = Go.beforeTag m earlier a ++ tag
      ∧ (Go.render m).toList = Go.beforeKey m earlier ++ key
      ∧ (Go.rawString? tag).isSome
      ∧ (Go.literal? key).map Prod.fst = some (Text.utf8 a.name.toList)
      ∧ (Go.tagName? tag = (Go.literal? key).map Prod.fst
        ↔ ∀ c ∈ a.apiName.toList, c ∉ Go.tagBreakers) := by
  obtain ⟨behindTag, tagPlace⟩ := Go.exists_tag split
  obtain ⟨behindKey, keyPlace⟩ := Go.exists_key split
  have member : a ∈ m.attributes := by simp [split]
  have raw : (Go.rawString? (Go.tagChars a.name.toList ++ behindTag)).isSome := by
    obtain ⟨behind, found⟩ := Go.rawString?_tagChars a.name.toList behindTag
    rw [found]
    rfl
  have key : (Go.literal? (Go.literalChars a.name ++ behindKey)).map Prod.fst
      = some (Text.utf8 a.name.toList) := by
    rw [Go.literal?_literalChars]
    rfl
  refine ⟨_, _, tagPlace, keyPlace, raw, key, ?_⟩
  rw [key, Go.tagName?_tagChars]
  have same {c : Char} (breaks : c ∈ Go.tagBreakers) :=
    Model.breaker_mem_name_iff accepted member breaks
  constructor
  · intro plain c inName breaks
    exact plain c ((same breaks).mpr inName) breaks
  · intro plain c inName breaks
    exact plain c ((same breaks).mp inName) breaks

/-- The tag and the key of a name in camel case. -/
theorem Model.tags_agree_iff_sslMode :
    ∃ (m : Model) (a : Attribute), Model.ofDocument .source "pg"
        (.ofEntries "Postgres" [.ofControl "db.sslMode" .string]) = .ok m
      ∧ m.attributes = EntityKind.source.syntheticAttributes ++ [a] ∧ a.name = "db_ssl_mode"
      ∧ ∃ tag key,
        (Go.render m).toList = Go.beforeTag m EntityKind.source.syntheticAttributes a ++ tag
        ∧ (Go.render m).toList = Go.beforeKey m EntityKind.source.syntheticAttributes ++ key
        ∧ Go.tagName? tag = (Go.literal? key).map Prod.fst := by
  have found : ∃ m, Model.ofDocument .source "pg"
      (.ofEntries "Postgres" [.ofControl "db.sslMode" .string]) = .ok m :=
    Model.ofDocument_text "pg" "Postgres" rfl (by decide) (by decide) (by decide)
  obtain ⟨m, accepted⟩ := found
  obtain ⟨a, split, name, api⟩ := Model.attributes_of_text accepted rfl
  obtain ⟨tag, key, tagPlace, keyPlace, _, _, agree⟩ := Model.tags_agree_iff accepted split
  have plain : ("db.sslMode".toList.all fun c => Go.tagBreakers.all (c != ·)) = true := by decide
  refine ⟨m, a, accepted, split, name.trans (by decide), tag, key, tagPlace, keyPlace,
    agree.mpr fun c member breaks => ?_⟩
  rw [api] at member
  have other := List.all_eq_true.mp (List.all_eq_true.mp plain c member) c breaks
  simp at other

/-- The key of an attribute with a quote in its name has the whole name, but the tag ends at the
quote. -/
theorem Model.tag_cut_at_quote :
    ∃ (m : Model) (a : Attribute), Model.ofDocument .source "pg"
        (.ofEntries "Postgres" [.ofControl "a\"b" .string]) = .ok m
      ∧ m.attributes = EntityKind.source.syntheticAttributes ++ [a]
      ∧ ∃ tag key,
        (Go.render m).toList = Go.beforeTag m EntityKind.source.syntheticAttributes a ++ tag
        ∧ (Go.render m).toList = Go.beforeKey m EntityKind.source.syntheticAttributes ++ key
        ∧ Go.tagName? tag = some (Text.utf8 ['a'])
        ∧ (Go.literal? key).map Prod.fst = some (Text.utf8 ['a', '"', 'b']) := by
  have found : ∃ m, Model.ofDocument .source "pg"
      (.ofEntries "Postgres" [.ofControl "a\"b" .string]) = .ok m :=
    Model.ofDocument_text "pg" "Postgres" rfl (by decide) (by decide) (by decide)
  obtain ⟨m, accepted⟩ := found
  obtain ⟨a, split, name, _⟩ := Model.attributes_of_text accepted rfl
  obtain ⟨behindTag, tagPlace⟩ := Go.exists_tag split
  obtain ⟨behindKey, keyPlace⟩ := Go.exists_key split
  have chars : a.name.toList = ['a', '"', 'b'] := by
    rw [name]
    decide
  refine ⟨m, a, accepted, split, _, _, tagPlace, keyPlace, ?_, ?_⟩
  · have raw := Go.takeWhile_closed (show '`' ∉ ['a', '"', 'b'] by decide) behindTag
    have kept : (['a', '"', 'b'] ++ ['"']).filter (· ≠ '\r') = ['a', '"', 'b', '"'] := by decide
    have cut : Go.cutQuoted? ['a', '"', 'b', '"'] = some (['a'], ['b', '"']) := by decide
    rw [chars, Go.tagName?_tagChars_eq, raw, kept, cut]
    refine Go.unquoted?_plain fun c member => ?_
    rw [List.mem_singleton.mp member]
    decide
  · rw [Go.literal?_literalChars, chars]
    rfl

end ConnectorSchema
