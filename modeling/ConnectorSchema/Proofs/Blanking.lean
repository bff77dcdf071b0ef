import Mathlib.Data.List.Forall2
import ConnectorSchema.Proofs.PackageUse

/-!
Go text without its free text. `blankFrom` drops what stands within interpreted string literals, and
`skeleton` reads a file line by line in this way and also drops the display name from its two comments.
`Corresponds` says of two lists of lines that nothing else tells them apart.
-/

namespace ConnectorSchema.Go

/-- Whether a scanner takes the next character for a part of a string literal's contents. -/
def Place.inLiteral : Place → Char → Bool
  | string, c => c ≠ '"'
  | escape, _ => true
  | _, _ => false

/-- A text that begins at this place, without the contents of its interpreted string literals. -/
def blankFrom (place : Place) : List Char → List Char
  | [] => []
  | c :: rest =>
    if place.inLiteral c then blankFrom (place.next c) rest else c :: blankFrom (place.next c) rest

theorem Place.after_append (place : Place) (s t : List Char) :
    place.after (s ++ t) = (place.after s).after t :=
  List.foldl_append

theorem blankFrom_append (place : Place) (s t : List Char) :
    blankFrom place (s ++ t) = blankFrom place s ++ blankFrom (place.after s) t := by
  induction s generalizing place with
  | nil => rfl
  | cons c s ih =>
    have step : place.after (c :: s) = (place.next c).after s := rfl
    rw [List.cons_append, blankFrom, blankFrom, ih, step]
    split <;> rfl

theorem blankFrom_inside {text : List Char} (plain : ∀ d ∈ text, d ≠ '"' ∧ d ≠ '\\') :
    blankFrom .string text = [] := by
  induction text with
  | nil => rfl
  | cons c rest ih =>
    obtain ⟨⟨notQuote, notSlash⟩, later⟩ := List.forall_mem_cons.mp plain
    have hidden : Place.string.inLiteral c := by simp [Place.inLiteral, notQuote]
    have next : Place.string.next c = .string := by simp [Place.next, notQuote, notSlash]
    rw [blankFrom, if_pos hidden, next, ih later]

theorem blankFrom_literalChar (c : Char) : blankFrom .string (literalChar c) = [] := by
  rcases literalChar_cases c with ⟨same, plain⟩ | ⟨d, rest, same, plain⟩
  · rw [same]
    exact blankFrom_inside fun d member => List.mem_singleton.mp member ▸ plain
  · have escaped : blankFrom .string ('\\' :: d :: rest) = blankFrom .string rest := rfl
    rw [same, escaped, blankFrom_inside plain]

/-- Of a literal in code its two quotes are left, whatever its value is. -/
theorem blankFrom_literal (s : String) (word : List Char) :
    blankFrom (.code word) (literalChars s) = ['"', '"'] := by
  have inside (text : List Char) : blankFrom .string (text.flatMap literalChar) = []
      ∧ Place.after .string (text.flatMap literalChar) = .string := by
    induction text with
    | nil => exact ⟨rfl, rfl⟩
    | cons c rest ih =>
      have stays := (Reads.literalChar c).after
      rw [List.flatMap_cons, blankFrom_append, Place.after_append, stays, blankFrom_literalChar,
        List.nil_append]
      exact ih
  obtain ⟨hidden, stays⟩ := inside s.toList
  have opened : blankFrom (.code word) ('"' :: (s.toList.flatMap literalChar ++ ['"']))
      = '"' :: blankFrom .string (s.toList.flatMap literalChar ++ ['"']) := rfl
  rw [literalChars, List.cons_append, opened, blankFrom_append, hidden, stays]
  rfl

/-- A comment has no literals in it. -/
theorem blankFrom_lineComment {text : List Char} (whole : '\n' ∉ text) :
    blankFrom .lineComment text = text := by
  induction text with
  | nil => rfl
  | cons c rest ih =>
    obtain ⟨here, later⟩ := not_or.mp fun member => whole (List.mem_cons.mpr member)
    have shown : Place.lineComment.inLiteral c = false := rfl
    have next : Place.lineComment.next c = .lineComment := if_neg (Ne.symm here)
    rw [blankFrom, shown, next, ih later]
    rfl

theorem blankFrom_comment {line remark : List Char} (shape : line = '/' :: '/' :: remark)
    (whole : '\n' ∉ line) : blankFrom (.code []) line = line := by
  subst shape
  have inRemark : '\n' ∉ remark := fun member =>
    whole (List.mem_cons_of_mem _ (List.mem_cons_of_mem _ member))
  have opened : blankFrom (.code []) ('/' :: '/' :: remark)
      = '/' :: '/' :: blankFrom .lineComment remark := rfl
  rw [opened, blankFrom_lineComment inRemark]

/-- From one place to another two texts differ within literals only. -/
structure Matches (start : Place) (s t : List Char) (stop : Place) : Prop where
  blanked : blankFrom start s = blankFrom start t
  first : start.after s = stop
  second : start.after t = stop

namespace Matches

theorem refl {start stop : Place} {s : List Char} (ends : start.after s = stop) :
    Matches start s s stop :=
  ⟨rfl, ends, ends⟩

theorem append {start middle stop : Place} {s t u v : List Char} (left : Matches start s t middle)
    (right : Matches middle u v stop) : Matches start (s ++ u) (t ++ v) stop := by
  refine ⟨?_, ?_, ?_⟩
  · rw [blankFrom_append, blankFrom_append, left.blanked, left.first, left.second, right.blanked]
  · rw [Place.after_append, left.first, right.first]
  · rw [Place.after_append, left.second, right.second]

theorem literal (s t : String) (word : List Char) :
    Matches (.code word) (literalChars s) (literalChars t) (.code []) := by
  refine ⟨?_, (Reads.literal s word).after, (Reads.literal t word).after⟩
  rw [blankFrom_literal, blankFrom_literal]

/-- Lists of literals match when they are equally long. -/
theorem literalList {values others : List String} (length : values.length = others.length) :
    Matches (.code []) (lineChars (Go.literalList values)) (lineChars (Go.literalList others))
      (.code []) := by
  induction values generalizing others with
  | nil =>
    rw [List.length_eq_zero_iff.mp length.symm]
    exact refl rfl
  | cons s rest ih =>
    obtain ⟨t, more, rfl⟩ := List.exists_cons_of_length_eq_add_one length.symm
    have later := ih (Nat.succ.inj length)
    have one : Matches (.code []) (literalChars s) (literalChars t) (.code []) := literal s t []
    have comma : Matches (.code []) ", ".toList ", ".toList (.code []) := refl (by decide)
    cases rest with
    | nil =>
      rw [List.length_eq_zero_iff.mp (Nat.succ.inj length).symm]
      simpa [Go.literalList] using one
    | cons s' rest =>
      obtain ⟨t', more, rfl⟩ := List.exists_cons_of_length_eq_add_one (Nat.succ.inj length).symm
      simpa [Go.literalList] using one.append (comma.append later)

end Matches

/-- A line that has these ends, without what stands between them. -/
def hollow (start stop line : List Char) : List Char :=
  if start <+: line ∧ stop <:+ line ∧ start.length + stop.length ≤ line.length then start ++ stop
  else line

theorem hollow_between (start between stop : List Char) :
    hollow start stop (start ++ (between ++ stop)) = start ++ stop := by
  have begins : start <+: start ++ (between ++ stop) := List.prefix_append _ _
  have ends : stop <:+ start ++ (between ++ stop) := by
    rw [← List.append_assoc]
    exact List.suffix_append _ _
  have room : start.length + stop.length ≤ (start ++ (between ++ stop)).length := by
    simp only [List.length_append]
    omega
  exact if_pos ⟨begins, ends, room⟩

theorem hollow_other {start stop line : List Char} (other : ¬ start <+: line) :
    hollow start stop line = line :=
  if_neg fun fits => other fits.1

/-- A line without the display name, if it is one of the two comments that have it. -/
def veil (h : Header) (kind : EntityKind) (line : List Char) : List Char :=
  let stop := (" " ++ kind.name ++ ".").toList
  hollow ("// " ++ h.schemaFunction ++ " returns the Terraform schema of a ").toList stop
    (hollow ("// " ++ h.modelName ++ " describes the Terraform state of a ").toList stop line)

/-- The lines of a text that begins at this place, less the contents of literals and the display name
in comments. The scanner goes on from line to line. -/
def skeletonFrom (h : Header) (kind : EntityKind) (place : Place) :
    List (List Char) → List (List Char)
  | [] => []
  | line :: rest =>
    veil h kind (blankFrom place line) :: skeletonFrom h kind (place.after (line ++ ['\n'])) rest

/-- What is left of a file's text, line by line, when its free text is blanked out. -/
def skeleton (h : Header) (kind : EntityKind) (file : String) : List (List Char) :=
  skeletonFrom h kind (.code []) (file.toList.splitOn '\n')

theorem skeletonFrom_append (h : Header) (kind : EntityKind) (place : Place) (lines : List Line)
    (more : List (List Char)) : skeletonFrom h kind place (lines.map lineChars ++ more)
      = skeletonFrom h kind place (lines.map lineChars)
        ++ skeletonFrom h kind (place.after (text lines)) more := by
  induction lines generalizing place with
  | nil => rfl
  | cons line lines ih =>
    have split : text (line :: lines) = lineChars line ++ ['\n'] ++ text lines := rfl
    rw [List.map_cons, List.cons_append, skeletonFrom, skeletonFrom, ih, split,
      Place.after_append place (lineChars line ++ ['\n']), List.cons_append]

theorem length_skeletonFrom (h : Header) (kind : EntityKind) (place : Place)
    (lines : List (List Char)) : (skeletonFrom h kind place lines).length = lines.length := by
  induction lines generalizing place with
  | nil => rfl
  | cons line lines ih => rw [skeletonFrom, List.length_cons, ih, List.length_cons]

/-- A text of whole lines has just these lines, and what stands behind its last line break. -/
theorem splitOn_text {lines : List Line} (whole : ∀ line ∈ lines, '\n' ∉ lineChars line) :
    (text lines).splitOn '\n' = lines.map lineChars ++ [[]] := by
  induction lines with
  | nil => rfl
  | cons line lines ih =>
    obtain ⟨here, later⟩ := List.forall_mem_cons.mp whole
    have other : ∀ c ∈ lineChars line, (c == '\n') = false := by
      intro c member
      exact beq_false_of_ne fun same => here (same ▸ member)
    have first : (lineChars line ++ '\n' :: text lines).splitOn '\n'
        = lineChars line :: (text lines).splitOn '\n' :=
      List.splitOnP_append_cons_of_forall_mem other '\n' (beq_self_eq_true _) _
    rw [text_cons, first, ih later, List.map_cons, List.cons_append]

/-- Two lists of lines that begin and end in code and in no word, and have the same skeleton. -/
structure Corresponds (h : Header) (kind : EntityKind) (lines others : List Line) : Prop where
  skeleton : skeletonFrom h kind (.code []) (lines.map lineChars)
    = skeletonFrom h kind (.code []) (others.map lineChars)
  first : Place.after (.code []) (text lines) = .code []
  second : Place.after (.code []) (text others) = .code []

namespace Corresponds

variable {h : Header} {kind : EntityKind}

theorem of_after {lines : List Line} (ends : Place.after (.code []) (text lines) = .code []) :
    Corresponds h kind lines lines :=
  ⟨rfl, ends, ends⟩

theorem of_uses {lines : List Line} {packages : List Package} (uses : Uses lines packages) :
    Corresponds h kind lines lines :=
  of_after uses.after

theorem append {a b c d : List Line} (left : Corresponds h kind a b)
    (right : Corresponds h kind c d) : Corresponds h kind (a ++ c) (b ++ d) := by
  refine ⟨?_, ?_, ?_⟩
  · rw [List.map_append, List.map_append, skeletonFrom_append, skeletonFrom_append, left.skeleton,
      left.first, left.second, right.skeleton]
  · rw [text_append, Place.after_append, left.first, right.first]
  · rw [text_append, Place.after_append, left.second, right.second]

theorem flatMap {α β : Type} {xs : List α} {ys : List β} {lines : α → List Line}
    {others : β → List Line}
    (each : List.Forall₂ (fun x y => Corresponds h kind (lines x) (others y)) xs ys) :
    Corresponds h kind (xs.flatMap lines) (ys.flatMap others) := by
  induction each with
  | nil => exact of_uses Uses.nil
  | cons here _ ih => exact here.append ih

/-- Two lines that differ in one part, and within literals only. -/
theorem within {a b : Line} {before after s t : List Char} {word : List Char}
    (shapeA : lineChars a = before ++ (s ++ after)) (shapeB : lineChars b = before ++ (t ++ after))
    (opens : Place.after (.code []) before = .code word)
    (same : Matches (.code word) s t (.code []))
    (closes : Place.after (.code []) (after ++ ['\n']) = .code []) :
    Corresponds h kind [a] [b] := by
  have whole : Matches (.code []) (lineChars a) (lineChars b) (Place.after (.code []) after) := by
    rw [shapeA, shapeB]
    exact (Matches.refl opens).append (same.append (Matches.refl rfl))
  have alone (line : Line) : text [line] = lineChars line ++ ['\n'] := by simp [text]
  rw [Place.after_append] at closes
  refine ⟨?_, ?_, ?_⟩
  · simp only [List.map_cons, List.map_nil, skeletonFrom, whole.blanked]
  · rw [alone, Place.after_append, whole.first, closes]
  · rw [alone, Place.after_append, whole.second, closes]

end Corresponds

end ConnectorSchema.Go
