import Mathlib.Data.List.TakeWhile
import ConnectorSchema.Text.Blank

/-!
Trimming as a relation. Only blanks are taken from the ends of a text, and what is left has none at
either end, so that of each text just one thing is left (`trimmed_eq_iff`).
-/

namespace ConnectorSchema.Text

def AllBlank (cs : List Char) : Prop := ∀ c ∈ cs, isBlank c = true

instance (cs : List Char) : Decidable (AllBlank cs) :=
  List.decidableBAll (fun c => isBlank c = true) cs

/-- No blank stands at either end. -/
structure Solid (cs : List Char) : Prop where
  first : ∀ c ∈ cs.head?, isBlank c = false
  last : ∀ c ∈ cs.getLast?, isBlank c = false

/-- What is left of a text without the blanks around it. -/
structure Trims (cs middle : List Char) : Prop where
  split : ∃ front back, AllBlank front ∧ AllBlank back ∧ cs = front ++ middle ++ back
  solid : Solid middle

theorem Solid.nil : Solid [] := ⟨by simp, by simp⟩

theorem solid_of_forall {cs : List Char} (none : ∀ c ∈ cs, isBlank c = false) : Solid cs :=
  ⟨fun c here => none c (List.mem_of_mem_head? here),
    fun c here => none c (List.mem_of_getLast? here)⟩

theorem dropWhile_of_first {cs : List Char} (first : ∀ c ∈ cs.head?, isBlank c = false) :
    cs.dropWhile isBlank = cs := by
  cases cs with
  | nil => rfl
  | cons c rest => exact List.dropWhile_cons_of_neg (by simp [first c rfl])

theorem first_dropWhile (cs : List Char) :
    ∀ c ∈ (cs.dropWhile isBlank).head?, isBlank c = false := by
  intro c here
  have found := List.head?_dropWhile_not isBlank cs
  rwa [Option.mem_def.mp here] at found

theorem allBlank_takeWhile (cs : List Char) : AllBlank (cs.takeWhile isBlank) :=
  fun _ member => List.mem_takeWhile_imp member

theorem AllBlank.reverse {cs : List Char} (blank : AllBlank cs) : AllBlank cs.reverse :=
  fun c member => blank c (List.mem_reverse.mp member)

theorem trims_trimmed (cs : List Char) : Trims cs (trimmed cs) := by
  have ahead : cs.takeWhile isBlank ++ cs.dropWhile isBlank = cs := List.takeWhile_append_dropWhile
  have behind : cs.dropWhile isBlank
      = trimmed cs ++ ((cs.dropWhile isBlank).reverse.takeWhile isBlank).reverse := by
    rw [trimmed, ← List.reverse_append, List.takeWhile_append_dropWhile, List.reverse_reverse]
  refine ⟨⟨cs.takeWhile isBlank, ((cs.dropWhile isBlank).reverse.takeWhile isBlank).reverse,
    allBlank_takeWhile cs, (allBlank_takeWhile _).reverse, ?_⟩, fun c here => ?_, ?_⟩
  · rw [List.append_assoc, ← behind, ahead]
  · refine first_dropWhile cs c ?_
    rw [behind, List.head?_append, Option.mem_def.mp here]
    rfl
  · rw [trimmed, List.getLast?_reverse]
    exact first_dropWhile _

theorem trimmed_append {front middle back : List Char} (ahead : AllBlank front)
    (behind : AllBlank back) (solid : Solid middle) : trimmed (front ++ middle ++ back) = middle := by
  rw [trimmed, List.append_assoc, List.dropWhile_append_of_pos ahead]
  rcases List.eq_nil_or_concat middle with rfl | ⟨before, c, rfl⟩
  · rw [List.nil_append, List.dropWhile_eq_nil_iff.mpr behind]
    rfl
  · rw [List.concat_eq_append] at solid ⊢
    have first : ∀ d ∈ (before ++ [c] ++ back).head?, isBlank d = false := by
      intro d here
      refine solid.first d ?_
      cases before <;> exact here
    rw [dropWhile_of_first first, List.reverse_append, List.dropWhile_append_of_pos behind.reverse,
      dropWhile_of_first (by rw [List.head?_reverse]; exact solid.last), List.reverse_reverse]

theorem trimmed_eq_iff {cs middle : List Char} : trimmed cs = middle ↔ Trims cs middle := by
  constructor
  · rintro rfl
    exact trims_trimmed cs
  · rintro ⟨⟨front, back, ahead, behind, rfl⟩, solid⟩
    exact trimmed_append ahead behind solid

theorem Solid.trimmed_eq {cs : List Char} (solid : Solid cs) : trimmed cs = cs :=
  trimmed_eq_iff.mpr ⟨⟨[], [], by simp [AllBlank], by simp [AllBlank], by simp⟩, solid⟩

theorem trimmed_eq_nil_iff {cs : List Char} : trimmed cs = [] ↔ AllBlank cs := by
  rw [trimmed_eq_iff]
  constructor
  · rintro ⟨⟨front, back, ahead, behind, rfl⟩, _⟩
    simpa [AllBlank, or_imp, forall_and] using And.intro ahead behind
  · intro blank
    exact ⟨⟨cs, [], blank, by simp [AllBlank], by simp⟩, .nil⟩

theorem Solid.append {a b : List Char} (left : Solid a) (someLeft : a ≠ []) (right : Solid b)
    (someRight : b ≠ []) (between : List Char) : Solid (a ++ between ++ b) := by
  constructor
  · cases a with
    | nil => contradiction
    | cons c rest => exact left.first
  · obtain ⟨c, last⟩ := Option.ne_none_iff_exists'.mp (mt List.getLast?_eq_none_iff.mp someRight)
    rw [List.getLast?_append, last, Option.some_or, ← last]
    exact right.last

/-- Texts without blanks at their ends make another such text, whatever is put between them. -/
theorem solid_intercalate {between : List Char} {parts : List (List Char)}
    (each : ∀ part ∈ parts, part ≠ [] ∧ Solid part) : Solid (between.intercalate parts) := by
  induction parts with
  | nil => exact .nil
  | cons part rest ih =>
    obtain ⟨⟨nonempty, solid⟩, later⟩ := List.forall_mem_cons.mp each
    cases rest with
    | nil => rwa [List.intercalate_singleton]
    | cons next others =>
      have someLater : between.intercalate (next :: others) ≠ [] := by
        have someNext := (later next List.mem_cons_self).1
        cases others <;> simp [List.intercalate_cons_cons, someNext]
      rw [List.intercalate_cons_cons]
      exact solid.append nonempty (ih later) someLater between

/-- The ends alone decide. -/
theorem solid_of_ends {c d : Char} (first : isBlank c = false) (last : isBlank d = false)
    (inner : List Char) : Solid (c :: (inner ++ [d])) := by
  constructor
  · rintro _ ⟨⟩
    exact first
  · rw [← List.cons_append, List.getLast?_concat]
    rintro _ ⟨⟩
    exact last

theorem toList_trim (s : String) : (trim s).toList = trimmed s.toList := String.toList_ofList

theorem trim_eq_empty_iff {s : String} : trim s = "" ↔ AllBlank s.toList := by
  rw [← trimmed_eq_nil_iff, ← toList_trim, String.toList_eq_nil_iff]

end ConnectorSchema.Text
