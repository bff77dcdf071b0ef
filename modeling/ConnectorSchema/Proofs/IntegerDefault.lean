import ConnectorSchema.Proofs.Acceptance
import ConnectorSchema.Proofs.RoundTrip

/-!
Integer defaults that are given as text. The default of a number or a slider is the word that its text
holds, and where the text holds none the entry is at fault (`Default.int64_of_text`).
-/

namespace ConnectorSchema

namespace Default

/-- What a text as the default of a number or a slider comes to. -/
theorem given?_integer {e : Entry} {s : String}
    (control : e.input.control = .number ∨ e.input.control = .slider)
    (written : e.input.defaultValue = some (.string s)) :
    given? e.kind e
      = match Number.readInt64? s with
        | some k => .ok (some (.int64 k))
        | none => .error (.entry e.name (.conversion ⟨.literal (.string s), .integer⟩)) := by
  have kind : e.kind = .int64 := by rcases control with is | is <;> exact congrArg ValueKind.ofControl is
  have known : e.input.control.isKnown := by rcases control with is | is <;> rw [is] <;> rfl
  have read : e.readsDefault := by simp [Entry.readsDefault, known, kind, ValueKind.admitsDefault]
  have counterpart : (Literal.string s).counterpart? .int64 = (Number.readInt64? s).map .int64 := rfl
  rw [given?_counterpart written read (fun editor => Bool.noConfusion editor.2), kind, counterpart]
  cases Number.readInt64? s <;> rfl

/-- A text field has the text of the word that is its default. -/
theorem given?_word {e : Entry} {k : Int64} (kind : e.kind = .string)
    (known : e.input.control.isKnown) (written : e.input.defaultValue = some (.integer k)) :
    given? e.kind e = .ok (some (.string (toString k.toInt))) := by
  have read : e.readsDefault := by simp [Entry.readsDefault, known, kind, ValueKind.admitsDefault]
  rw [given?_counterpart written read (fun editor => Bool.noConfusion editor.2), kind]
  rfl

/-- The default of a number or a slider that is given as text is the word that the text holds. A text
that holds none is a problem, and the problem names the entry. A word as the default of a text field
becomes a text that holds it, so as the default of a number or a slider this text is the word again. -/
theorem int64_of_text :
    (∀ (e : Entry) (s : String), e.input.control = .number ∨ e.input.control = .slider →
        e.input.defaultValue = some (.string s) →
        (∀ k, given? e.kind e = .ok (some (.int64 k)) ↔ Number.HoldsWord s k)
          ∧ ((¬ ∃ k, Number.HoldsWord s k) → given? e.kind e
            = .error (.entry e.name (.conversion ⟨.literal (.string s), .integer⟩))))
      ∧ ∀ (k : Int64) (t : Entry), t.kind = .string → t.input.control.isKnown →
        t.input.defaultValue = Literal.ofValue? (.number (.ofInt64 k)) →
        ∃ s, s = toString k.toInt ∧ given? t.kind t = .ok (some (.string s))
          ∧ ∀ e : Entry, e.input.control = .number ∨ e.input.control = .slider →
            e.input.defaultValue = some (.string s) → given? e.kind e = .ok (some (.int64 k)) := by
  constructor
  · intro e s control written
    rw [given?_integer control written]
    simp only [← Number.readInt64?_eq_some_iff]
    cases read : Number.readInt64? s with
    | none => simp
    | some word => simp
  · intro k t kind known written
    have integer : t.input.defaultValue = some (.integer k) :=
      written.trans (Literal.ofValue?_toValue (.integer k))
    refine ⟨_, rfl, given?_word kind known integer, fun e control again => ?_⟩
    rw [given?_integer control again, Number.readInt64?_eq_some_iff.mpr (Number.holdsWord_toString k)]

/-- The least word with blanks, a sign and zeros before it; a text that is one too large for a word; and
the greatest word. -/
theorem int64_of_text_least :
    let given (control : Control) (l : Literal) : Entry :=
      { Entry.ofControl "port" control with
        input := { Input.ofControl control with defaultValue := some l } }
    let least := given .slider (.string "\u2003-009223372036854775808\n")
    let above := given .number (.string "9223372036854775808")
    let greatest := given .password (.integer 9223372036854775807)
    given? least.kind least = .ok (some (.int64 (-9223372036854775808)))
      ∧ given? above.kind above
        = .error (.entry "port" (.conversion ⟨.literal (.string "9223372036854775808"), .integer⟩))
      ∧ ∃ s, given? greatest.kind greatest = .ok (some (.string s))
        ∧ given? .int64 (given .number (.string s)) = .ok (some (.int64 9223372036854775807)) := by
  intro given least above greatest
  obtain ⟨ofText, ofWord⟩ := int64_of_text
  have holds : Number.HoldsWord "\u2003-009223372036854775808\n" (-9223372036854775808) :=
    Number.readInt64?_eq_some_iff.mp (by decide +kernel)
  have holdsNone : ¬ ∃ k, Number.HoldsWord "9223372036854775808" k := by
    have none : Number.readInt64? "9223372036854775808" = none := by decide +kernel
    simp [← Number.readInt64?_eq_some_iff, none]
  obtain ⟨s, _, text, again⟩ := ofWord 9223372036854775807 greatest rfl rfl
    (Literal.ofValue?_toValue (.integer 9223372036854775807)).symm
  exact ⟨((ofText least _ (Or.inr rfl) rfl).1 _).mpr holds, (ofText above _ (Or.inl rfl) rfl).2 holdsNone,
    s, text, again (given .number (.string s)) (Or.inl rfl) rfl⟩

end Default

end ConnectorSchema
