import ConnectorSchema.Go.File
import ConnectorSchema.Json.Scan
import ConnectorSchema.Proofs.Literal
import ConnectorSchema.Text.Backslash
import ConnectorSchema.Text.Utf8

/-!
The value of an interpreted string literal by the rules of the language: the bytes of its characters
and escapes up to the quote that ends it. What `literal` writes has the bytes of its text for a
value (`literal_faithful`), with a few of the escapes that there are.
-/

namespace ConnectorSchema.Go

open Text (utf8)

/-- The number that the first digits of a text write, exactly so many, and the text behind them. -/
def takeNumber? (digit? : Char → Option Nat) (base : Nat) :
    (width value : Nat) → List Char → Option (Nat × List Char)
  | 0, value, text => some (value, text)
  | _ + 1, _, [] => none
  | width + 1, value, c :: text =>
    (digit? c).bind fun d => takeNumber? digit? base width (value * base + d) text

/-- The byte with this number, if there is one. -/
def byte? (n : Nat) : Option (List UInt8) := if n < 256 then some [UInt8.ofNat n] else none

/-- The bytes of the character with this number, if there is one. -/
def character? (n : Nat) : Option (List UInt8) :=
  if n.isValidChar then some (String.utf8EncodeChar (Char.ofNat n)) else none

/-- The bytes for a number that is written with so many digits, and the text behind it. -/
def numbered? (digit? : Char → Option Nat) (base width : Nat) (bytes? : Nat → Option (List UInt8))
    (text : List Char) : Option (List UInt8 × List Char) := do
  let (n, rest) ← takeNumber? digit? base width 0 text
  return (← bytes? n, rest)

/-- The bytes that an escape stands for, and the text behind it. The backslash has been seen. -/
def escape? : List Char → Option (List UInt8 × List Char)
  | [] => none
  | '"' :: rest => some (String.utf8EncodeChar '"', rest)
  | 'x' :: rest => numbered? Json.hexValue? 16 2 byte? rest
  | 'u' :: rest => numbered? Json.hexValue? 16 4 character? rest
  | 'U' :: rest => numbered? Json.hexValue? 16 8 character? rest
  | c :: rest =>
    match Text.letterEscape? c with
    | some d => some (String.utf8EncodeChar d, rest)
    | none => numbered? Text.octal? 8 3 byte? (c :: rest)

/-- The bytes of the first character or escape between the quotes of a literal, and the text behind
it. -/
def unit? : List Char → Option (List UInt8 × List Char)
  | [] => none
  | '\n' :: _ => none
  | '\\' :: rest => escape? rest
  | c :: rest => some (String.utf8EncodeChar c, rest)

theorem takeNumber?_split {digit? : Char → Option Nat} {base width value n : Nat}
    {text rest : List Char} (taken : takeNumber? digit? base width value text = some (n, rest)) :
    ∃ digits, text = digits ++ rest ∧ digits.length = width := by
  induction width generalizing value text with
  | zero =>
    cases taken
    exact ⟨[], rfl, rfl⟩
  | succ width ih =>
    cases text with
    | nil => cases taken
    | cons c text =>
      obtain ⟨d, _, later⟩ := Option.bind_eq_some_iff.mp taken
      obtain ⟨digits, rfl, length⟩ := ih later
      exact ⟨c :: digits, rfl, by rw [List.length_cons, length]⟩

theorem numbered?_split {digit? : Char → Option Nat} {base width most : Nat}
    {bytes? : Nat → Option (List UInt8)} {text rest : List Char} {bytes : List UInt8}
    (few : ∀ n bytes, bytes? n = some bytes → bytes.length ≤ most)
    (read : numbered? digit? base width bytes? text = some (bytes, rest)) :
    ∃ digits, text = digits ++ rest ∧ digits.length = width ∧ bytes.length ≤ most := by
  obtain ⟨⟨n, behind⟩, taken, made⟩ := Option.bind_eq_some_iff.mp read
  obtain ⟨found, known, same⟩ := Option.bind_eq_some_iff.mp made
  cases same
  obtain ⟨digits, split, length⟩ := takeNumber?_split taken
  exact ⟨digits, split, length, few n bytes known⟩

theorem length_utf8EncodeChar (c : Char) :
    0 < (String.utf8EncodeChar c).length ∧ (String.utf8EncodeChar c).length ≤ 4 := by
  rw [String.length_utf8EncodeChar]
  exact ⟨c.utf8Size_pos, c.utf8Size_le_four⟩

theorem length_byte? (n : Nat) (bytes : List UInt8) (known : byte? n = some bytes) :
    bytes.length ≤ 1 := by
  obtain ⟨_, same⟩ := Option.ite_none_right_eq_some.mp known
  cases same
  exact Nat.le_refl 1

theorem length_character? (n : Nat) (bytes : List UInt8) (known : character? n = some bytes) :
    bytes.length ≤ 4 := by
  obtain ⟨_, same⟩ := Option.ite_none_right_eq_some.mp known
  cases same
  exact (length_utf8EncodeChar _).2

theorem length_letterEscape? {c d : Char} (known : Text.letterEscape? c = some d) :
    (String.utf8EncodeChar d).length = 1 := by
  unfold Text.letterEscape? at known
  split at known <;> cases known <;> rfl

/-- An escape has more characters than its value has bytes, its backslash counted. -/
theorem escape?_split {text rest : List Char} {bytes : List UInt8}
    (read : escape? text = some (bytes, rest)) :
    ∃ written, text = written ++ rest ∧ bytes.length ≤ written.length ∧ written ≠ [] := by
  unfold escape? at read
  split at read
  · cases read
  · cases read
    exact ⟨['"'], rfl, Nat.le_refl 1, List.cons_ne_nil _ _⟩
  · obtain ⟨digits, rfl, length, few⟩ := numbered?_split length_byte? read
    exact ⟨'x' :: digits, rfl, by rw [List.length_cons]; omega, List.cons_ne_nil _ _⟩
  · obtain ⟨digits, rfl, length, few⟩ := numbered?_split length_character? read
    exact ⟨'u' :: digits, rfl, by rw [List.length_cons]; omega, List.cons_ne_nil _ _⟩
  · obtain ⟨digits, rfl, length, few⟩ := numbered?_split length_character? read
    exact ⟨'U' :: digits, rfl, by rw [List.length_cons]; omega, List.cons_ne_nil _ _⟩
  · rename_i c rest' _ _ _ _
    cases known : Text.letterEscape? c with
    | some d =>
      rw [known] at read
      cases read
      exact ⟨[c], rfl, Nat.le_of_eq (length_letterEscape? known), List.cons_ne_nil _ _⟩
    | none =>
      rw [known] at read
      obtain ⟨digits, split, length, few⟩ := numbered?_split length_byte? read
      refine ⟨digits, split, by omega, ?_⟩
      rintro rfl
      cases length

/-- A text between quotes begins with a character that stands for itself, or with an escape. -/
theorem unit?_split {text rest : List Char} {bytes : List UInt8}
    (read : unit? text = some (bytes, rest)) :
    (∃ c, text = c :: rest ∧ c ≠ '\n' ∧ c ≠ '\\' ∧ bytes = String.utf8EncodeChar c)
      ∨ ∃ written, text = '\\' :: written ++ rest ∧ bytes.length ≤ written.length := by
  unfold unit? at read
  split at read
  · cases read
  · cases read
  · obtain ⟨written, rfl, few, _⟩ := escape?_split read
    exact Or.inr ⟨written, rfl, few⟩
  · rename_i c rest' notBreak notSlash
    cases read
    exact Or.inl ⟨c, rfl, notBreak, notSlash, rfl⟩

theorem unit?_shorter {text rest : List Char} {bytes : List UInt8}
    (read : unit? text = some (bytes, rest)) : rest.length < text.length := by
  rcases unit?_split read with ⟨c, rfl, _⟩ | ⟨written, rfl, _⟩
  · simp
  · simp only [List.cons_append, List.length_cons, List.length_append]
    omega

/-- The bytes of what stands before the quote that ends a literal, and the text behind it. -/
def contents? : List Char → Option (List UInt8 × List Char)
  | [] => none
  | '"' :: rest => some ([], rest)
  | c :: text =>
    match _ : unit? (c :: text) with
    | none => none
    | some (bytes, rest) => (contents? rest).map fun (more, behind) => (bytes ++ more, behind)
termination_by text => text.length
decreasing_by exact unit?_shorter (by assumption)

/-- The value of the literal at the beginning of a text, and the text behind it. -/
def literal? : List Char → Option (List UInt8 × List Char)
  | '"' :: text => contents? text
  | _ => none

theorem contents?_end (rest : List Char) : contents? ('"' :: rest) = some ([], rest) := by
  rw [contents?]

theorem contents?_unit {text rest : List Char} {bytes : List UInt8} (inside : text.head? ≠ some '"')
    (read : unit? text = some (bytes, rest)) :
    contents? text = (contents? rest).map fun (more, behind) => (bytes ++ more, behind) := by
  cases text with
  | nil => cases read
  | cons c text =>
    have notQuote : c ≠ '"' := fun quote => inside (congrArg some quote)
    rw [contents?.eq_3 _ _ notQuote]
    split
    · simp_all
    · simp_all

theorem hexValue?_digitChar {n : Nat} (small : n < 16) :
    Json.hexValue? (Nat.digitChar n) = some n := by
  have all : ∀ n < 16, Json.hexValue? (Nat.digitChar n) = some n := by decide
  exact all n small

theorem takeNumber?_hex4 {n : Nat} (small : n < 65536) (rest : List Char) :
    takeNumber? Json.hexValue? 16 4 0 (hex4 n ++ rest) = some (n, rest) := by
  have digit (k : Nat) : Json.hexValue? (Nat.digitChar (k % 16)) = some (k % 16) :=
    hexValue?_digitChar (Nat.mod_lt k (by decide))
  simp only [hex4, List.cons_append, List.nil_append, takeNumber?, digit, Option.bind_some,
    Option.some.injEq, Prod.mk.injEq, and_true]
  omega

theorem unit?_plain {c : Char} (notBreak : c ≠ '\n') (notSlash : c ≠ '\\') (rest : List Char) :
    unit? (c :: rest) = some (String.utf8EncodeChar c, rest) := by
  rw [unit?]
  · exact notBreak
  · exact notSlash

theorem unit?_literalChar (c : Char) (rest : List Char) :
    unit? (literalChar c ++ rest) = some (String.utf8EncodeChar c, rest) := by
  unfold literalChar
  split
  case h_6 _ notSlash notBreak _ _ =>
    split
    · rename_i control
      have small : c.toNat < 160 := by
        simp only [isControl, Bool.or_eq_true, Bool.and_eq_true, decide_eq_true_eq] at control
        omega
      have valid : c.toNat.isValidChar := Or.inl (by omega)
      have number := takeNumber?_hex4 (n := c.toNat) (by omega) rest
      have bytes : character? c.toNat = some (String.utf8EncodeChar c) := by
        rw [character?, if_pos valid, Char.ofNat_toNat]
      simp only [List.cons_append, unit?, escape?, numbered?, number, Option.bind_eq_bind,
        Option.bind_some, bytes, pure]
    · exact unit?_plain notBreak notSlash rest
  all_goals rfl

/-- No character of a text ends the literal for it, so reading goes on to the quote behind them
all. -/
theorem contents?_flatMap (cs rest : List Char) :
    contents? (cs.flatMap literalChar ++ '"' :: rest) = some (utf8 cs, rest) := by
  induction cs with
  | nil => exact contents?_end rest
  | cons c cs ih =>
    obtain ⟨first, more, split, notQuote⟩ :=
      head_literalChar c (cs.flatMap literalChar ++ '"' :: rest)
    have inside : (literalChar c ++ (cs.flatMap literalChar ++ '"' :: rest)).head? ≠ some '"' := by
      rw [split]
      exact fun quote => notQuote (Option.some.inj quote)
    rw [List.flatMap_cons, List.append_assoc, contents?_unit inside (unit?_literalChar c _), ih]
    rfl

theorem literal?_literalChars (s : String) (rest : List Char) :
    literal? (literalChars s ++ rest) = some (utf8 s.toList, rest) := by
  rw [literalChars, List.cons_append, List.cons_append, literal?, List.append_assoc]
  exact contents?_flatMap s.toList rest

/-- A character or escape as `literal` writes it. -/
inductive Written : List Char → Prop
  | plain {c : Char} : c ≠ '"' → c ≠ '\\' → isControl c = false → Written [c]
  | mark {c : Char} : c ∈ ['"', '\\', 'n', 'r', 't'] → Written ['\\', c]
  | unit {a b c d : Char} : (∀ digit ∈ [a, b, c, d], (Json.hexValue? digit).isSome) →
      Written ['\\', 'u', a, b, c, d]

theorem written_literalChar (c : Char) : Written (literalChar c) := by
  unfold literalChar
  split
  case h_6 _ notQuote notSlash _ _ _ =>
    split
    · refine .unit fun digit member => ?_
      simp only [List.mem_cons, List.not_mem_nil, or_false] at member
      rcases member with rfl | rfl | rfl | rfl <;>
        rw [hexValue?_digitChar (Nat.mod_lt _ (by decide))] <;> rfl
    · rename_i shown
      exact .plain notQuote notSlash (by simpa using shown)
  all_goals exact .mark (by decide)

/-- The key of an attribute as it is written in the schema. -/
def writtenKey? (a : Attribute) : Option String :=
  ((attributeLines a).head?.bind (·[1]?)).map Segment.text

theorem writtenKey?_eq (a : Attribute) : writtenKey? a = some (literal a.name) := rfl

/-- Two texts that begin with a literal each begin with the same one, and go on alike. -/
theorem literalChars_append_inj {s t : String} {r u : List Char}
    (same : literalChars s ++ r = literalChars t ++ u) : s = t ∧ r = u := by
  have values := literal?_literalChars s r
  rw [same, literal?_literalChars] at values
  obtain ⟨bytes, rest⟩ := Prod.mk.inj (Option.some.inj values)
  exact ⟨String.toList_injective (Text.utf8_injective bytes).symm, rest.symm⟩

theorem literal_inj {s t : String} : literal s = literal t ↔ s = t := by
  refine ⟨fun same => ?_, congrArg literal⟩
  have chars : literalChars s ++ [] = literalChars t ++ [] :=
    congrArg (· ++ []) (String.ofList_injective same)
  exact (literalChars_append_inj chars).1

/-- A literal consists of plain characters and of few sorts of escapes, it ends at its own quote
whatever stands behind it, and its value is the text that it was written for. So the keys of two
attributes are the same only when their names are. -/
theorem literal_faithful (s : String) :
    (∃ items : List (List Char), (literal s).toList = '"' :: items.flatten ++ ['"']
      ∧ ∀ item ∈ items, Written item)
    ∧ (∀ c ∈ (literal s).toList, isControl c = false)
    ∧ (∀ rest, literal? ((literal s).toList ++ rest) = some (utf8 s.toList, rest))
    ∧ (∀ t, literal s = literal t ↔ s = t)
    ∧ ∀ a b : Attribute, writtenKey? a = writtenKey? b ↔ a.name = b.name := by
  have chars : (literal s).toList = literalChars s := String.toList_ofList
  rw [chars]
  refine ⟨⟨s.toList.map literalChar, rfl, fun item member => ?_⟩,
    fun c => isControl_of_mem_literalChars, literal?_literalChars s, fun t => literal_inj,
    fun a b => ?_⟩
  · obtain ⟨c, _, rfl⟩ := List.mem_map.mp member
    exact written_literalChar c
  · rw [writtenKey?_eq, writtenKey?_eq, Option.some_inj, literal_inj]

/-- What looks like an escape in the text is none in its literal. -/
theorem literal_faithful_control :
    literal "\\u\u0085\"0" = "\"\\\\u\\u0085\\\"0\""
    ∧ 'u' ∈ (literal "\\u\u0085\"0").toList ∧ isControl 'u' = false
    ∧ ∀ rest, literal? ((literal "\\u\u0085\"0").toList ++ rest)
      = some (utf8 "\\u\u0085\"0".toList, rest) := by
  obtain ⟨_, plain, value, _⟩ := literal_faithful "\\u\u0085\"0"
  have member : 'u' ∈ (literal "\\u\u0085\"0").toList := by decide
  exact ⟨by decide, member, plain 'u' member, value⟩

end ConnectorSchema.Go
