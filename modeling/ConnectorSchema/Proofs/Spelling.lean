import ConnectorSchema.Json.Scan
import ConnectorSchema.Json.Value

/-!
The grammar of JSON, as a relation between a tree without faults and the texts that spell it, blanks
and all. Scanning a text gives the tree that it spells (`scan_of_speltBy`), so a tree may be reasoned
about through any text for it.
-/

namespace ConnectorSchema.Json

open ConnectorSchema.Number (isDigit)

/-- What may stand around values, keys and marks. -/
def Blanks (cs : List Char) : Prop := ∀ c ∈ cs, isJsonBlank c = true

theorem Blanks.nil : Blanks [] := by simp [Blanks]

theorem skipBlanks_append {blanks : List Char} (blank : Blanks blanks) (rest : List Char) :
    skipBlanks (blanks ++ rest) = skipBlanks rest :=
  List.dropWhile_append_of_pos blank

theorem skipBlanks_cons {c : Char} (solid : isJsonBlank c = false) (rest : List Char) :
    skipBlanks (c :: rest) = c :: rest :=
  List.dropWhile_cons_of_neg (by simp [solid])

/-! ## Strings -/

inductive Piece.SpeltBy : Piece → List Char → Prop
  | plain {c : Char} : c ≠ '"' → c ≠ '\\' → 32 ≤ c.toNat → SpeltBy (.char c) [c]
  | escape {letter c : Char} : simpleEscape? letter = some c → SpeltBy (.char c) ['\\', letter]
  | unit {a b c d : Char} {code : Nat} : hexUnit? a b c d = some code →
      SpeltBy (.unit code) ['\\', 'u', a, b, c, d]

inductive PiecesSpelt : List Piece → List Char → Prop
  | nil : PiecesSpelt [] []
  | cons {piece : Piece} {pieces : List Piece} {text rest : List Char} :
      piece.SpeltBy text → PiecesSpelt pieces rest → PiecesSpelt (piece :: pieces) (text ++ rest)

/-- Quotes and all. -/
def RawString.SpeltBy (s : RawString) (text : List Char) : Prop :=
  s.stop = none ∧ ∃ inner, PiecesSpelt s.pieces inner ∧ text = '"' :: inner ++ ['"']

theorem scanString_piece {piece : Piece} {text : List Char} (spelt : piece.SpeltBy text)
    (rest : List Char) : scanString (text ++ rest) = RawString.cons piece (scanString rest) := by
  cases spelt with
  | @plain c noQuote noSlash shown =>
    have visible : ¬ c.toNat < 32 := by omega
    rw [List.singleton_append, scanString]
    · rw [if_neg visible]
    all_goals simp_all
  | @escape letter c known =>
    have noUnit : letter ≠ 'u' := by
      rintro rfl
      contradiction
    rw [List.cons_append, List.singleton_append, scanString]
    · simp [known]
    all_goals simp_all
  | unit known => simp [scanString, known]

theorem scanString_of_spelt {pieces : List Piece} {inner : List Char}
    (spelt : PiecesSpelt pieces inner) (rest : List Char) :
    scanString (inner ++ '"' :: rest) = (⟨pieces, none⟩, rest) := by
  induction spelt with
  | nil => simp [scanString]
  | cons piece _ ih =>
    rw [List.append_assoc, scanString_piece piece, ih]
    rfl

/-! ## Numbers -/

def IsDigits (digits : List Char) : Prop := digits ≠ [] ∧ ∀ d ∈ digits, isDigit d = true

/-- A zero in front stands alone. -/
def IsWhole (digits : List Char) : Prop :=
  digits = ['0'] ∨ IsDigits digits ∧ digits.head? ≠ some '0'

inductive FractionSpelt : List Char → List Char → Prop
  | absent : FractionSpelt [] []
  | digits {digits : List Char} : IsDigits digits → FractionSpelt digits ('.' :: digits)

inductive ExponentSpelt : Option (Bool × List Char) → List Char → Prop
  | absent : ExponentSpelt none []
  | negative {e : Char} {digits : List Char} : e = 'e' ∨ e = 'E' → IsDigits digits →
      ExponentSpelt (some (true, digits)) (e :: '-' :: digits)
  | positive {e : Char} {digits : List Char} : e = 'e' ∨ e = 'E' → IsDigits digits →
      ExponentSpelt (some (false, digits)) (e :: '+' :: digits)
  | unsigned {e : Char} {digits : List Char} : e = 'e' ∨ e = 'E' → IsDigits digits →
      ExponentSpelt (some (false, digits)) (e :: digits)

def Numeral.SpeltBy (n : Numeral) (text : List Char) : Prop :=
  IsWhole n.whole ∧ ∃ point power, FractionSpelt n.fraction point ∧ ExponentSpelt n.exponent power
    ∧ text = (if n.negative then ['-'] else []) ++ n.whole ++ point ++ power

/-- Nothing here prolongs a number. -/
def EndsNumber (rest : List Char) : Prop :=
  ∀ c ∈ rest.head?, isDigit c = false ∧ c ≠ '.' ∧ c ≠ 'e' ∧ c ≠ 'E'

theorem EndsNumber.nil : EndsNumber [] := by simp [EndsNumber]

theorem EndsNumber.blanks {blanks rest : List Char} (blank : Blanks blanks) (ends : EndsNumber rest) :
    EndsNumber (blanks ++ rest) := by
  cases blanks with
  | nil => exact ends
  | cons c others =>
    intro d here
    cases here
    have cases := blank c List.mem_cons_self
    simp only [isJsonBlank, Bool.or_eq_true, beq_iff_eq] at cases
    rcases cases with ((rfl | rfl) | rfl) | rfl <;> decide

theorem isDigits_zero : IsDigits ['0'] := by
  refine ⟨List.cons_ne_nil _ _, fun d member => ?_⟩
  rw [List.mem_singleton.mp member]
  decide

theorem IsWhole.digits {whole : List Char} (isWhole : IsWhole whole) : IsDigits whole := by
  rcases isWhole with rfl | ⟨digits, _⟩
  · exact isDigits_zero
  · exact digits

section

variable {digits rest : List Char} (all : IsDigits digits)
  (stops : ∀ c ∈ rest.head?, isDigit c = false)

include all stops

theorem takeWhile_digits : (digits ++ rest).takeWhile isDigit = digits := by
  rw [List.takeWhile_append_of_pos all.2]
  cases rest with
  | nil => simp
  | cons c others =>
    rw [List.takeWhile_cons_of_neg (by simp [stops c rfl]), List.append_nil]

theorem dropWhile_digits : (digits ++ rest).dropWhile isDigit = rest := by
  rw [List.dropWhile_append_of_pos all.2]
  cases rest with
  | nil => rfl
  | cons c others => rw [List.dropWhile_cons_of_neg (by simp [stops c rfl])]

end

theorem scanExponent_of_spelt {exponent : Option (Bool × List Char)} {power : List Char}
    (spelt : ExponentSpelt exponent power) (negative : Bool) (whole fraction : List Char)
    {rest : List Char} (ends : EndsNumber rest) :
    scanExponent negative whole fraction (power ++ rest)
      = (.numeral ⟨negative, whole, fraction, exponent⟩, rest) := by
  have stops : ∀ c ∈ rest.head?, isDigit c = false := fun c here => (ends c here).1
  cases spelt with
  | absent =>
    cases rest with
    | nil => rfl
    | cons c others =>
      obtain ⟨_, _, notLower, notUpper⟩ := ends c rfl
      simp [scanExponent, notLower, notUpper]
  | @negative e digits mark all =>
    simp [scanExponent, mark, takeWhile_digits all stops, dropWhile_digits all stops, all.1]
  | @positive e digits mark all =>
    simp [scanExponent, mark, takeWhile_digits all stops, dropWhile_digits all stops, all.1]
  | @unsigned e digits mark all =>
    have noSign : ∀ others, digits ++ rest ≠ '-' :: others ∧ digits ++ rest ≠ '+' :: others := by
      intro others
      obtain ⟨some, each⟩ := all
      cases digits with
      | nil => contradiction
      | cons d more =>
        have digit := each d List.mem_cons_self
        constructor <;> rintro ⟨⟩ <;> revert digit <;> decide
    simp only [scanExponent, List.cons_append, mark, if_true]
    split
    · exact absurd ‹_› (noSign _).1
    · exact absurd ‹_› (noSign _).2
    · simp [takeWhile_digits all stops, dropWhile_digits all stops, all.1]

/-- An exponent ends the digits before it. -/
theorem stops_of_spelt {exponent : Option (Bool × List Char)} {power : List Char}
    (raised : ExponentSpelt exponent power) {rest : List Char} (ends : EndsNumber rest) :
    ∀ c ∈ (power ++ rest).head?, isDigit c = false ∧ c ≠ '.' := by
  intro c here
  cases raised with
  | absent => exact ⟨(ends c here).1, (ends c here).2.1⟩
  | negative mark | positive mark | unsigned mark =>
    cases here
    rcases mark with rfl | rfl <;> decide

theorem IsWhole.exists_cons {whole : List Char} (isWhole : IsWhole whole) :
    ∃ d others, whole = d :: others ∧ (d = '0' → others = []) := by
  rcases isWhole with rfl | ⟨⟨nonempty, _⟩, noZero⟩
  · exact ⟨_, _, rfl, fun _ => rfl⟩
  · cases whole with
    | nil => contradiction
    | cons d others => exact ⟨d, others, rfl, fun zero => absurd (congrArg some zero) noZero⟩

theorem scanNumeral_pointed {whole digits rest : List Char} (isWhole : IsWhole whole)
    (all : IsDigits digits) (stops : ∀ c ∈ rest.head?, isDigit c = false) (negative : Bool) :
    scanNumeral negative (whole ++ '.' :: (digits ++ rest))
      = scanExponent negative whole digits rest := by
  have point : ∀ c ∈ ('.' :: (digits ++ rest)).head?, isDigit c = false := by
    intro c here
    cases here
    decide
  unfold scanNumeral
  rw [takeWhile_digits isWhole.digits point, dropWhile_digits isWhole.digits point]
  obtain ⟨d, others, rfl, alone⟩ := isWhole.exists_cons
  simp only [takeWhile_digits all stops, dropWhile_digits all stops, if_neg all.1]
  split
  · contradiction
  · rename_i same
    obtain ⟨zero, more⟩ := List.cons.inj same
    rw [alone zero] at more
    contradiction
  · rfl

theorem scanNumeral_unpointed {whole rest : List Char} (isWhole : IsWhole whole)
    (stops : ∀ c ∈ rest.head?, isDigit c = false ∧ c ≠ '.') (negative : Bool) :
    scanNumeral negative (whole ++ rest) = scanExponent negative whole [] rest := by
  have digitless : ∀ c ∈ rest.head?, isDigit c = false := fun c here => (stops c here).1
  unfold scanNumeral
  rw [takeWhile_digits isWhole.digits digitless, dropWhile_digits isWhole.digits digitless]
  obtain ⟨d, others, rfl, alone⟩ := isWhole.exists_cons
  simp only
  split
  · contradiction
  · rename_i same
    obtain ⟨zero, more⟩ := List.cons.inj same
    rw [alone zero] at more
    contradiction
  · split
    · exact absurd rfl (stops '.' rfl).2
    · rfl

theorem scanNumeral_of_spelt {whole fraction point power rest : List Char}
    {exponent : Option (Bool × List Char)} (isWhole : IsWhole whole)
    (spelt : FractionSpelt fraction point) (raised : ExponentSpelt exponent power)
    (ends : EndsNumber rest) (negative : Bool) :
    scanNumeral negative (whole ++ (point ++ power ++ rest))
      = (.numeral ⟨negative, whole, fraction, exponent⟩, rest) := by
  have stops := stops_of_spelt raised ends
  cases spelt with
  | digits all =>
    rw [List.append_assoc, List.cons_append,
      scanNumeral_pointed isWhole all (fun c here => (stops c here).1)]
    exact scanExponent_of_spelt raised negative whole fraction ends
  | absent =>
    rw [List.nil_append, scanNumeral_unpointed isWhole stops]
    exact scanExponent_of_spelt raised negative whole [] ends

/-! ## Values -/

def Scalar.SpeltBy : Scalar → List Char → Prop
  | .null, text => text = ['n', 'u', 'l', 'l']
  | .boolean true, text => text = ['t', 'r', 'u', 'e']
  | .boolean false, text => text = ['f', 'a', 'l', 's', 'e']
  | .numeral n, text => n.SpeltBy text
  | .string s, text => s.SpeltBy text
  | .broken _, _ => False

/-- What stands between the brackets of a list, or the braces of an object, with these parts. -/
inductive Joined : List (List Char) → List Char → Prop
  | none {blanks : List Char} : Blanks blanks → Joined [] blanks
  | some {text : List Char} {texts : List (List Char)} :
      Joined (text :: texts) (separated (text :: texts))

mutual

/-- Whether a tree is the one of a text. No tree with a fault in it has a text. -/
def Node.SpeltBy : Node → List Char → Prop
  | .scalar s, text => s.SpeltBy text
  | .list items stop, text =>
    stop = none ∧ ∃ texts inner, ItemsSpelt items texts ∧ Joined texts inner
      ∧ text = '[' :: inner ++ [']']
  | .object members stop, text =>
    stop = none ∧ ∃ texts inner, MembersSpelt members texts ∧ Joined texts inner
      ∧ text = '{' :: inner ++ ['}']

def ItemsSpelt : List Node → List (List Char) → Prop
  | [], texts => texts = []
  | item :: rest, texts =>
    ∃ before text after others, Blanks before ∧ item.SpeltBy text ∧ Blanks after
      ∧ ItemsSpelt rest others ∧ texts = (before ++ text ++ after) :: others

def MembersSpelt : List (RawString × Node) → List (List Char) → Prop
  | [], texts => texts = []
  | (key, value) :: rest, texts =>
    ∃ before name gap lead text after others, Blanks before ∧ key.SpeltBy name ∧ Blanks gap
      ∧ Blanks lead ∧ value.SpeltBy text ∧ Blanks after ∧ MembersSpelt rest others
      ∧ texts = (before ++ name ++ gap ++ ':' :: lead ++ text ++ after) :: others

end

theorem separated_cons (text : List Char) (texts : List (List Char)) :
    separated (text :: texts) = text ++ texts.flatMap (',' :: ·) := by
  induction texts generalizing text with
  | nil => simp [separated]
  | cons other rest ih =>
    rw [separated, ih, List.flatMap_cons, List.cons_append]
    simp

theorem ne_of_isDigit {d c : Char} (digit : isDigit d = true) (other : isDigit c = false) : d ≠ c := by
  rintro rfl
  rw [digit] at other
  contradiction

/-- A digit begins a number. -/
theorem scanScalar_digit {d : Char} (digit : isDigit d = true) (rest : List Char) :
    scanScalar d rest = scanNumeral false (d :: rest) := by
  have ne {c : Char} (other : isDigit c = false) : d ≠ c := ne_of_isDigit digit other
  unfold scanScalar
  split
  · exact absurd rfl (ne (c := 'n') rfl)
  · exact absurd rfl (ne (c := 't') rfl)
  · exact absurd rfl (ne (c := 'f') rfl)
  · exact absurd rfl (ne (c := '"') rfl)
  · exact absurd rfl (ne (c := '-') rfl)
  · rw [if_pos digit]

/-- A scalar is told by its first character, which is no blank and neither opens nor closes
anything else. -/
theorem scanScalar_of_speltBy {s : Scalar} {text rest : List Char} (spelt : s.SpeltBy text)
    (ends : EndsNumber rest) :
    ∃ c others, text = c :: others ∧ isJsonBlank c = false ∧ c ∉ ['[', ']', '{', '}']
      ∧ scanScalar c (others ++ rest) = (s, rest) := by
  cases s with
  | null =>
    subst spelt
    exact ⟨_, _, rfl, by decide, by decide, by simp [scanScalar, scanWord]⟩
  | boolean b =>
    cases b <;> subst spelt <;>
      exact ⟨_, _, rfl, by decide, by decide, by simp [scanScalar, scanWord]⟩
  | broken => exact spelt.elim
  | string s =>
    obtain ⟨closed, inner, pieces, rfl⟩ := spelt
    refine ⟨_, _, rfl, by decide, by decide, ?_⟩
    obtain ⟨pieceList, stop⟩ := s
    cases closed
    simp [scanScalar, scanString_of_spelt pieces]
  | numeral n =>
    obtain ⟨isWhole, point, power, fraction, exponent, rfl⟩ := spelt
    obtain ⟨negative, whole, fractionDigits, raised⟩ := n
    have scanned := scanNumeral_of_spelt isWhole fraction exponent ends negative
    cases negative with
    | true =>
      refine ⟨_, _, rfl, by decide, by decide, ?_⟩
      simpa [scanScalar] using scanned
    | false =>
      obtain ⟨some, each⟩ := isWhole.digits
      cases whole with
      | nil => contradiction
      | cons d others =>
        have digit : isDigit d = true := each d List.mem_cons_self
        refine ⟨d, others ++ point ++ power, by simp, ?_, ?_, ?_⟩
        · have ne {c : Char} (other : isDigit c = false) : d ≠ c := ne_of_isDigit digit other
          simp [isJsonBlank, ne (c := ' ') rfl, ne (c := '\n') rfl, ne (c := '\t') rfl,
            ne (c := '\r') rfl]
        · intro bracket
          simp only [List.mem_cons, List.not_mem_nil, or_false] at bracket
          rcases bracket with rfl | rfl | rfl | rfl <;> exact absurd digit (by decide)
        · rw [scanScalar_digit digit]
          simpa using scanned

/-! ## Lists and objects -/

/-- What is left to scan in front of the closing mark of a list or an object with these parts: all of
them at first, and later each of those that remain behind a comma. -/
inductive Ahead : Bool → List (List Char) → List Char → Prop
  | first {texts : List (List Char)} {inner : List Char} : Joined texts inner → Ahead true texts inner
  | later {texts : List (List Char)} {after : List Char} : Blanks after →
      Ahead false texts (after ++ texts.flatMap (',' :: ·))

theorem Ahead.blanks {first : Bool} {ahead : List Char} (none : Ahead first [] ahead) :
    Blanks ahead := by
  cases none with
  | first joined =>
    obtain ⟨blank⟩ := joined
    exact blank
  | later blank => simpa using blank

theorem Ahead.length_le {first : Bool} {text ahead : List Char} {texts : List (List Char)}
    (some : Ahead first (text :: texts) ahead) :
    text.length + (texts.flatMap (',' :: ·)).length ≤ ahead.length := by
  cases some with
  | first joined =>
    cases joined
    simp only [separated_cons, List.length_append, Nat.le_refl]
  | later blank =>
    simp only [List.flatMap_cons, List.length_append, List.length_cons]
    omega

/-- What follows a part of a list or an object: another part, or the closing mark. -/
theorem endsNumber_part {after : List Char} (blank : Blanks after) (texts : List (List Char))
    {close : Char} (closes : close = ']' ∨ close = '}') (tail : List Char) :
    EndsNumber (after ++ texts.flatMap (',' :: ·) ++ close :: tail) := by
  rw [List.append_assoc]
  refine EndsNumber.blanks blank fun c here => ?_
  cases texts with
  | nil =>
    cases here
    rcases closes with rfl | rfl <;> decide
  | cons text others =>
    cases here
    decide

section

variable {steps : Nat} {first : Bool} {source rest more : List Char} {c : Char}

theorem scanItems_closed (found : skipBlanks source = ']' :: rest) :
    scanItems (steps + 1) first source = ([], none, rest) := by
  simp [scanItems, found]

theorem scanItems_first (found : skipBlanks source = c :: rest) (item : c ≠ ']') :
    scanItems (steps + 1) true source = scanItem steps (c :: rest) := by
  simp [scanItems, found]

theorem scanItems_next (found : skipBlanks source = ',' :: rest) (next : skipBlanks rest = c :: more)
    (item : c ≠ ']') : scanItems (steps + 1) false source = scanItem steps (c :: more) := by
  simp [scanItems, found, next, item]

theorem scanMembers_closed (found : skipBlanks source = '}' :: rest) :
    scanMembers (steps + 1) first source = ([], none, rest) := by
  simp [scanMembers, found]

theorem scanMembers_first (found : skipBlanks source = '"' :: rest) :
    scanMembers (steps + 1) true source = scanMember steps rest := by
  simp [scanMembers, found]

theorem scanMembers_next (found : skipBlanks source = ',' :: rest)
    (next : skipBlanks rest = '"' :: more) :
    scanMembers (steps + 1) false source = scanMember steps more := by
  simp [scanMembers, found, next]

end

section

variable {steps : Nat} {first : Bool} {ahead before text behind tail : List Char}
  {texts : List (List Char)} {c : Char}

theorem Ahead.skipBlanks_closed (none : Ahead first [] ahead) {close : Char}
    (solid : isJsonBlank close = false) : skipBlanks (ahead ++ close :: tail) = close :: tail := by
  rw [skipBlanks_append none.blanks, skipBlanks_cons solid]

/-- The first part, without the blanks in front of it. -/
theorem skipBlanks_separated (blank : Blanks before) (solid : isJsonBlank c = false) :
    skipBlanks (separated ((before ++ c :: text ++ behind) :: texts) ++ tail)
      = c :: (text ++ (behind ++ texts.flatMap (',' :: ·) ++ tail)) := by
  rw [separated_cons]
  simp [skipBlanks_append blank, skipBlanks_cons solid]

/-- The comma in front of the next part, and then that part without the blanks in front of it. -/
theorem skipBlanks_flatMap {after : List Char} (blankAfter : Blanks after) (blank : Blanks before)
    (solid : isJsonBlank c = false) :
    ∃ rest, skipBlanks (after ++ List.flatMap (',' :: ·) ((before ++ c :: text ++ behind) :: texts)
        ++ tail) = ',' :: rest
      ∧ skipBlanks rest = c :: (text ++ (behind ++ texts.flatMap (',' :: ·) ++ tail)) := by
  refine ⟨before ++ c :: (text ++ (behind ++ texts.flatMap (',' :: ·) ++ tail)), ?_, ?_⟩
  · simp [skipBlanks_append blankAfter, skipBlanks_cons (c := ',') (by decide)]
  · rw [skipBlanks_append blank, skipBlanks_cons solid]

theorem scanItems_part (blank : Blanks before) (solid : isJsonBlank c = false) (item : c ≠ ']')
    (some : Ahead first ((before ++ c :: text ++ behind) :: texts) ahead) :
    scanItems (steps + 1) first (ahead ++ ']' :: tail)
      = scanItem steps (c :: (text ++ (behind ++ texts.flatMap (',' :: ·) ++ ']' :: tail))) := by
  cases some with
  | first joined =>
    cases joined
    exact scanItems_first (skipBlanks_separated blank solid) item
  | later blankAfter =>
    obtain ⟨rest, found, next⟩ := skipBlanks_flatMap blankAfter blank solid
    exact scanItems_next found next item

theorem scanMembers_part (blank : Blanks before)
    (some : Ahead first ((before ++ '"' :: text ++ behind) :: texts) ahead) :
    scanMembers (steps + 1) first (ahead ++ '}' :: tail)
      = scanMember steps (text ++ (behind ++ texts.flatMap (',' :: ·) ++ '}' :: tail)) := by
  cases some with
  | first joined =>
    cases joined
    exact scanMembers_first (skipBlanks_separated blank (by decide))
  | later blankAfter =>
    obtain ⟨rest, found, next⟩ := skipBlanks_flatMap blankAfter blank (c := '"') (by decide)
    exact scanMembers_next found next

end

/-- How the text of a value begins. -/
theorem Node.exists_cons_of_speltBy {node : Node} {text : List Char} (spelt : node.SpeltBy text) :
    ∃ c rest, text = c :: rest ∧ isJsonBlank c = false ∧ c ≠ ']' := by
  cases node with
  | scalar s =>
    obtain ⟨c, rest, rfl, solid, noBracket, _⟩ :=
      scanScalar_of_speltBy (show s.SpeltBy text from spelt) EndsNumber.nil
    exact ⟨c, rest, rfl, solid, by rintro rfl; exact noBracket (by decide)⟩
  | list =>
    obtain ⟨_, _, _, _, _, rfl⟩ := spelt
    exact ⟨_, _, rfl, by decide, by decide⟩
  | object =>
    obtain ⟨_, _, _, _, _, rfl⟩ := spelt
    exact ⟨_, _, rfl, by decide, by decide⟩

/-! The tree is scanned part by part. What carries the recursion is that three steps are left for each
character ahead, and that a part has a character at least. -/

mutual

theorem scanValue_of_speltBy : (node : Node) → {text : List Char} → node.SpeltBy text →
    {steps : Nat} → {blanks rest : List Char} → 3 * text.length + 1 ≤ steps → Blanks blanks →
    EndsNumber rest → scanValue steps (blanks ++ (text ++ rest)) = (node, rest)
  | .scalar s, text, spelt, steps, blanks, rest, enough, blank, ends => by
    obtain ⟨c, others, rfl, solid, noBracket, scanned⟩ :=
      scanScalar_of_speltBy (show s.SpeltBy text from spelt) ends
    obtain ⟨fewer, rfl⟩ : ∃ fewer, steps = fewer + 1 := ⟨steps - 1, by omega⟩
    simp only [List.mem_cons, not_or] at noBracket
    obtain ⟨noList, _, noObject, _⟩ := noBracket
    rw [scanValue, skipBlanks_append blank, List.cons_append, skipBlanks_cons solid]
    simp [scanned]
  | .list items stop, text, spelt, steps, blanks, rest, enough, blank, ends => by
    obtain ⟨rfl, texts, inner, parts, joined, rfl⟩ := spelt
    simp only [List.length_append, List.length_cons] at enough
    obtain ⟨fewer, rfl⟩ : ∃ fewer, steps = fewer + 1 := ⟨steps - 1, by omega⟩
    have scanned : scanItems fewer true (inner ++ ']' :: rest) = (items, none, rest) :=
      scanItems_of_spelt items parts (.first joined) (by omega)
    rw [scanValue, skipBlanks_append blank, List.cons_append, List.cons_append,
      skipBlanks_cons (by decide)]
    simp [scanned]
  | .object members stop, text, spelt, steps, blanks, rest, enough, blank, ends => by
    obtain ⟨rfl, texts, inner, parts, joined, rfl⟩ := spelt
    simp only [List.length_append, List.length_cons] at enough
    obtain ⟨fewer, rfl⟩ : ∃ fewer, steps = fewer + 1 := ⟨steps - 1, by omega⟩
    have scanned : scanMembers fewer true (inner ++ '}' :: rest) = (members, none, rest) :=
      scanMembers_of_spelt members parts (.first joined) (by omega)
    rw [scanValue, skipBlanks_append blank, List.cons_append, List.cons_append,
      skipBlanks_cons (by decide)]
    simp [scanned]

theorem scanItems_of_spelt : (items : List Node) → {texts : List (List Char)} →
    ItemsSpelt items texts → {first : Bool} → {ahead : List Char} → Ahead first texts ahead →
    {steps : Nat} → {tail : List Char} → 3 * ahead.length + 3 ≤ steps →
    scanItems steps first (ahead ++ ']' :: tail) = (items, none, tail)
  | [], texts, parts, first, ahead, found, steps, tail, enough => by
    cases (parts : texts = [])
    obtain ⟨fewer, rfl⟩ : ∃ fewer, steps = fewer + 1 := ⟨steps - 1, by omega⟩
    exact scanItems_closed (found.skipBlanks_closed (by decide))
  | item :: items, texts, parts, first, ahead, found, steps, tail, enough => by
    obtain ⟨before, text, behind, others, blank, spelt, blankBehind, parts, rfl⟩ := parts
    obtain ⟨c, rest, rfl, solid, noBracket⟩ := Node.exists_cons_of_speltBy spelt
    have long := found.length_le
    simp only [List.length_append, List.length_cons] at long
    obtain ⟨fewer, rfl⟩ : ∃ fewer, steps = fewer + 2 := ⟨steps - 2, by omega⟩
    have value : scanValue fewer (c :: (rest
        ++ (behind ++ others.flatMap (',' :: ·) ++ ']' :: tail)))
        = (item, behind ++ others.flatMap (',' :: ·) ++ ']' :: tail) :=
      scanValue_of_speltBy item spelt (by simp only [List.length_cons]; omega) Blanks.nil
        (endsNumber_part blankBehind others (Or.inl rfl) tail)
    have later : scanItems fewer false (behind ++ others.flatMap (',' :: ·) ++ ']' :: tail)
        = (items, none, tail) :=
      scanItems_of_spelt items parts (.later blankBehind)
        (by simp only [List.length_append]; omega)
    rw [scanItems_part blank solid noBracket found, scanItem, value]
    simp only [later]

theorem scanMembers_of_spelt : (members : List (RawString × Node)) → {texts : List (List Char)} →
    MembersSpelt members texts → {first : Bool} → {ahead : List Char} → Ahead first texts ahead →
    {steps : Nat} → {tail : List Char} → 3 * ahead.length + 3 ≤ steps →
    scanMembers steps first (ahead ++ '}' :: tail) = (members, none, tail)
  | [], texts, parts, first, ahead, found, steps, tail, enough => by
    cases (parts : texts = [])
    obtain ⟨fewer, rfl⟩ : ∃ fewer, steps = fewer + 1 := ⟨steps - 1, by omega⟩
    exact scanMembers_closed (found.skipBlanks_closed (by decide))
  | (key, node) :: members, texts, parts, first, ahead, found, steps, tail, enough => by
    obtain ⟨before, name, gap, lead, text, behind, others, blank, named, blankGap, blankLead, spelt,
      blankBehind, parts, rfl⟩ := parts
    obtain ⟨pieceList, stop⟩ := key
    obtain ⟨closed, inner, pieces, rfl⟩ := named
    cases closed
    have regroup : before ++ ('"' :: inner ++ ['"']) ++ gap ++ ':' :: lead ++ text ++ behind
        = before ++ '"' :: (inner ++ '"' :: (gap ++ ':' :: (lead ++ text))) ++ behind := by simp
    rw [regroup] at found
    have long := found.length_le
    simp only [List.length_append, List.length_cons] at long
    obtain ⟨fewer, rfl⟩ : ∃ fewer, steps = fewer + 2 := ⟨steps - 2, by omega⟩
    have value : scanValue fewer (lead ++ (text
        ++ (behind ++ others.flatMap (',' :: ·) ++ '}' :: tail)))
        = (node, behind ++ others.flatMap (',' :: ·) ++ '}' :: tail) :=
      scanValue_of_speltBy node spelt (by omega) blankLead
        (endsNumber_part blankBehind others (Or.inr rfl) tail)
    have later : scanMembers fewer false (behind ++ others.flatMap (',' :: ·) ++ '}' :: tail)
        = (members, none, tail) :=
      scanMembers_of_spelt members parts (.later blankBehind)
        (by simp only [List.length_append]; omega)
    have name := scanString_of_spelt pieces (gap ++ ':' :: (lead ++ (text
      ++ (behind ++ others.flatMap (',' :: ·) ++ '}' :: tail))))
    have colon : skipBlanks (gap ++ ':' :: (lead ++ (text
        ++ (behind ++ others.flatMap (',' :: ·) ++ '}' :: tail))))
        = ':' :: (lead ++ (text ++ (behind ++ others.flatMap (',' :: ·) ++ '}' :: tail))) := by
      rw [skipBlanks_append blankGap, skipBlanks_cons (by decide)]
    have member : scanMember (fewer + 1) (inner ++ '"' :: (gap ++ ':' :: (lead ++ (text
        ++ (behind ++ others.flatMap (',' :: ·) ++ '}' :: tail)))))
        = ((⟨pieceList, none⟩, node) :: members, none, tail) := by
      rw [scanMember, name]
      simp only [colon, value, later]
    rw [scanMembers_part blank found, ← member]
    simp

end

/-- The text of a whole document. -/
def Node.IsTextOf (node : Node) (text : String) : Prop :=
  ∃ before inner after, Blanks before ∧ node.SpeltBy inner ∧ Blanks after
    ∧ text.toList = before ++ inner ++ after

/-- Scanning a text of JSON gives the tree that it spells, and nothing behind it. -/
theorem scan_of_isTextOf {node : Node} {text : String} (spelt : node.IsTextOf text) :
    scan text = ⟨node, false⟩ := by
  obtain ⟨before, inner, after, blankBefore, spelt, blankAfter, chars⟩ := spelt
  have length : inner.length ≤ text.length := by
    rw [← String.length_toList, chars, List.length_append, List.length_append]
    omega
  have scanned : scanValue (3 * text.length + 3) (before ++ (inner ++ (after ++ [])))
      = (node, after ++ []) :=
    scanValue_of_speltBy node spelt (by omega) blankBefore
      (EndsNumber.blanks blankAfter EndsNumber.nil)
  have nothing : skipBlanks after = [] := by
    simpa [skipBlanks] using skipBlanks_append blankAfter []
  rw [List.append_nil] at scanned
  rw [scan, chars, List.append_assoc, scanned]
  simp [nothing]

end ConnectorSchema.Json
