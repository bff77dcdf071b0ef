import ConnectorSchema.Go.Literal

/-!
The characters of literals. No control character stands in one, and no character is written with a bare
quote, so nothing before its own closing quote ends a literal.
-/

namespace ConnectorSchema.Go

theorem isControl_digitChar {n : Nat} (small : n < 16) : isControl (Nat.digitChar n) = false := by
  have all : ∀ n < 16, isControl (Nat.digitChar n) = false := by decide
  exact all n small

/-- Control characters stand in no literal, however many of them its value has. -/
theorem isControl_of_mem_literalChars {s : String} {c : Char} (member : c ∈ literalChars s) :
    isControl c = false := by
  rcases List.mem_append.mp member with inside | quote
  case inr => rw [List.mem_singleton.mp quote]; rfl
  rcases List.mem_cons.mp inside with quote | inText
  · rw [quote]
    rfl
  obtain ⟨written, _, inChar⟩ := List.mem_flatMap.mp inText
  unfold literalChar at inChar
  split at inChar
  case h_6 =>
    split at inChar
    · simp only [hex4, List.mem_cons, List.not_mem_nil, or_false] at inChar
      rcases inChar with rfl | rfl | rfl | rfl | rfl | rfl
      · rfl
      · rfl
      all_goals exact isControl_digitChar (Nat.mod_lt _ (by decide))
    · rename_i printed
      rw [List.mem_singleton.mp inChar]
      simpa using printed
  all_goals
    simp only [List.mem_cons, List.not_mem_nil, or_false] at inChar
    rcases inChar with rfl | rfl <;> rfl

/-- A character stands in a literal as it is, or behind a backslash with nothing in its escape that
would end the literal. -/
theorem literalChar_cases (c : Char) : (literalChar c = [c] ∧ c ≠ '"' ∧ c ≠ '\\')
    ∨ ∃ d rest, literalChar c = '\\' :: d :: rest ∧ ∀ e ∈ rest, e ≠ '"' ∧ e ≠ '\\' := by
  unfold literalChar
  split
  case h_6 _ notQuote notSlash _ _ _ =>
    split
    · have digits : ∀ n < 16, Nat.digitChar n ≠ '"' ∧ Nat.digitChar n ≠ '\\' := by decide
      refine Or.inr ⟨'u', hex4 c.toNat, rfl, fun e member => ?_⟩
      simp only [hex4, List.mem_cons, List.not_mem_nil, or_false] at member
      rcases member with rfl | rfl | rfl | rfl <;> exact digits _ (Nat.mod_lt _ (by decide))
    · exact Or.inl ⟨rfl, notQuote, notSlash⟩
  all_goals exact Or.inr ⟨_, [], rfl, fun e member => absurd member List.not_mem_nil⟩

/-- No character is written with a bare quote at its beginning. -/
theorem head_literalChar (c : Char) (rest : List Char) :
    ∃ first more, literalChar c ++ rest = first :: more ∧ first ≠ '"' := by
  rcases literalChar_cases c with ⟨same, notQuote, _⟩ | ⟨d, more, same, _⟩
  · exact ⟨c, rest, by rw [same]; rfl, notQuote⟩
  · exact ⟨'\\', d :: (more ++ rest), by rw [same]; rfl, by decide⟩

end ConnectorSchema.Go
