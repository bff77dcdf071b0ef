import ConnectorSchema.Proofs.Lines

/-!
Scanning Go text for package qualifiers. The scanner knows comments and the three kinds of literals,
and takes a word in front of a dot for a qualifier. `Reads` composes over the pieces of a text, so what
a line holds follows from what its pieces hold.
-/

namespace ConnectorSchema.Go

/-- Where in a text a scanner stands. -/
inductive Place where
  /-- In code, behind these characters of a word. -/
  | code (word : List Char)
  | slash
  | lineComment
  | comment
  /-- In a comment of any length, behind a star. -/
  | star
  | string
  | escape
  | raw
  | rune
  | runeEscape
deriving DecidableEq

/-- The first 128 characters aside, a scanner takes all for letters. -/
def isNameChar (c : Char) : Bool := isWordChar c || 128 ≤ c.toNat

namespace Place

def nextInCode (word : List Char) (c : Char) : Place :=
  if isNameChar c then code (word ++ [c])
  else if c = '/' then slash
  else if c = '"' then string
  else if c = '\x60' then raw
  else if c = '\x27' then rune
  else code []

def next : Place → Char → Place
  | code word, c => nextInCode word c
  | slash, c => if c = '/' then lineComment else if c = '*' then comment else nextInCode [] c
  | lineComment, c => if c = '\n' then code [] else lineComment
  | comment, c => if c = '*' then star else comment
  | star, c => if c = '/' then code [] else if c = '*' then star else comment
  | string, c => if c = '"' then code [] else if c = '\\' then escape else string
  | escape, _ => string
  | raw, c => if c = '\x60' then code [] else raw
  | rune, c => if c = '\x27' then code [] else if c = '\\' then runeEscape else rune
  | runeEscape, _ => rune

/-- The qualifier that ends before this character. -/
def qualifier? : Place → Char → Option String
  | code word, c => if c = '.' ∧ word ≠ [] then some (String.ofList word) else none
  | _, _ => none

def after (place : Place) (text : List Char) : Place := text.foldl next place

end Place

/-- The qualifiers in a text that begins at this place. -/
def qualifiersFrom (place : Place) : List Char → List String
  | [] => []
  | c :: rest => (place.qualifier? c).toList ++ qualifiersFrom (place.next c) rest

/-- The package qualifiers in a text, outside comments and literals. -/
def qualifiers (text : List Char) : List String := qualifiersFrom (.code []) text

/-- From one place to another a text has just these qualifiers. -/
structure Reads (start : Place) (text : List Char) (found : List String) (stop : Place) : Prop where
  qualifiers : qualifiersFrom start text = found
  after : start.after text = stop

instance (start : Place) (text : List Char) (found : List String) (stop : Place) :
    Decidable (Reads start text found stop) :=
  decidable_of_iff (qualifiersFrom start text = found ∧ start.after text = stop)
    ⟨fun ⟨qualifiers, after⟩ => ⟨qualifiers, after⟩, fun read => ⟨read.qualifiers, read.after⟩⟩

namespace Reads

theorem nil (place : Place) : Reads place [] [] place := ⟨rfl, rfl⟩

theorem cons {start stop : Place} {c : Char} {text : List Char} {found : List String}
    (silent : start.qualifier? c = none) (rest : Reads (start.next c) text found stop) :
    Reads start (c :: text) found stop := by
  refine ⟨?_, rest.after⟩
  rw [qualifiersFrom, silent, rest.qualifiers]
  rfl

theorem append {start middle stop : Place} {s t : List Char} {found more : List String}
    (first : Reads start s found middle) (second : Reads middle t more stop) :
    Reads start (s ++ t) (found ++ more) stop := by
  induction s generalizing start found with
  | nil =>
    obtain ⟨rfl, rfl⟩ := first
    exact second
  | cons c s ih =>
    obtain ⟨rfl, after⟩ := first
    have here : Reads (start.next c) s (qualifiersFrom (start.next c) s) middle := ⟨rfl, after⟩
    obtain ⟨qualifiers, stops⟩ := ih here
    refine ⟨?_, stops⟩
    rw [List.cons_append, qualifiersFrom, qualifiers, qualifiersFrom, List.append_assoc]

/-- Text that does not lead away from a place. -/
theorem stay {place : Place} {text : List Char}
    (stays : ∀ c ∈ text, place.next c = place ∧ place.qualifier? c = none) :
    Reads place text [] place := by
  induction text with
  | nil => exact nil place
  | cons c rest ih =>
    obtain ⟨here, silent⟩ := stays c List.mem_cons_self
    refine cons silent ?_
    rw [here]
    exact ih fun d member => stays d (List.mem_cons_of_mem _ member)

theorem word {text : List Char} (words : ∀ c ∈ text, isWordChar c = true) (before : List Char) :
    Reads (.code before) text [] (.code (before ++ text)) := by
  induction text generalizing before with
  | nil =>
    rw [List.append_nil]
    exact nil _
  | cons c rest ih =>
    have inWord := words c List.mem_cons_self
    have notDot : c ≠ '.' := fun dot => by rw [dot] at inWord; exact absurd inWord (by decide)
    refine cons (by simp [Place.qualifier?, notDot]) ?_
    have on : (Place.code before).next c = .code (before ++ [c]) := by
      simp [Place.next, Place.nextInCode, isNameChar, inWord]
    have further := ih (fun d member => words d (List.mem_cons_of_mem _ member)) (before ++ [c])
    rw [List.append_assoc, List.singleton_append] at further
    rw [on]
    exact further

/-- Each character within a literal leaves the scanner within it. -/
theorem literalChar (c : Char) : Reads .string (Go.literalChar c) [] .string := by
  have inside {text : List Char} (plain : ∀ d ∈ text, d ≠ '"' ∧ d ≠ '\\') :
      Reads .string text [] .string :=
    stay fun d member => by simp [Place.next, Place.qualifier?, plain d member]
  rcases literalChar_cases c with ⟨same, plain⟩ | ⟨d, rest, same, plain⟩
  · rw [same]
    exact inside fun d member => List.mem_singleton.mp member ▸ plain
  · rw [same]
    exact cons rfl (cons rfl (inside plain))

theorem literal (s : String) (before : List Char) :
    Reads (.code before) (literalChars s) [] (.code []) := by
  have inside (text : List Char) : Reads .string (text.flatMap Go.literalChar) [] .string := by
    induction text with
    | nil => exact nil _
    | cons c rest ih => exact (literalChar c).append ih
  have opened : Reads (.code before) ['"'] [] .string := ⟨rfl, rfl⟩
  have closed : Reads .string ['"'] [] (.code []) := by decide
  exact (opened.append (inside s.toList)).append closed

/-- A comment goes on to the end of its line. -/
theorem remark {text : List Char} (whole : '\n' ∉ text) :
    Reads .lineComment text [] .lineComment :=
  stay fun c member => by
    have notNewline : c ≠ '\n' := fun same => whole (same ▸ member)
    simp [Place.next, Place.qualifier?, notNewline]

theorem integer (n : Int) : ∃ word, Reads (.code []) n.repr.toList [] (.code word) := by
  have digits {text : List Char} (all : ∀ c ∈ text, Number.isDigit c = true) :
      Reads (.code []) text [] (.code text) := by
    refine word (fun c member => ?_) []
    have digit := all c member
    simp only [Number.isDigit, Bool.and_eq_true, decide_eq_true_eq] at digit
    simp only [isWordChar, Char.isAlphanum, Char.isDigit, Bool.or_eq_true, Bool.and_eq_true,
      decide_eq_true_eq]
    exact Or.inl (Or.inr digit)
  rw [Number.toList_repr]
  split
  · exact ⟨_, digits fun c member => Number.isDigit_of_mem_toDigits member⟩
  · exact ⟨_, cons rfl (digits fun c member => Number.isDigit_of_mem_toDigits member)⟩

end Reads

end ConnectorSchema.Go
