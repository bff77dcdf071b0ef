import ConnectorSchema.Text.Utf8

/-!
The order of texts is the order of their bytes. A character with a smaller number has bytes that are
smaller at the first place where the two differ, so whatever follows them does not matter
(`utf8EncodeChar_lt`).
-/

namespace ConnectorSchema.Text

/-- The first byte decides, unless it is the same. -/
theorem cons_lt_cons_iff {a b : Nat} {as bs : List UInt8} (smallA : a < 256) (smallB : b < 256) :
    UInt8.ofNat a :: as < UInt8.ofNat b :: bs ↔ a < b ∨ a = b ∧ as < bs := by
  rw [List.cons_lt_cons_iff, UInt8.lt_iff_toNat_lt, ← UInt8.toNat_inj, UInt8.toNat_ofNat',
    UInt8.toNat_ofNat', Nat.mod_eq_of_lt smallA, Nat.mod_eq_of_lt smallB]

/-- The bytes of a character are smaller than those of a later one, whatever follows them. -/
theorem utf8EncodeChar_lt {c d : Char} (less : c < d) (as bs : List UInt8) :
    String.utf8EncodeChar c ++ as < String.utf8EncodeChar d ++ bs := by
  have less : c.val.toNat < d.val.toNat := less
  have valid : d.val.toNat < 55296 ∨ 57343 < d.val.toNat ∧ d.val.toNat < 1114112 := d.valid
  unfold String.utf8EncodeChar
  simp only
  generalize c.val.toNat = v at *
  generalize d.val.toNat = w at *
  by_cases four : 65535 < v
  · -- both have four bytes, and the first place where these differ is searched for byte by byte
    have order (k : Nat) : v / k ≤ w / k := Nat.div_le_div_right (Nat.le_of_lt less)
    rw [if_neg (by omega), if_neg (by omega), if_neg (by omega), if_neg (by omega),
      if_neg (by omega), if_neg (by omega)]
    simp (disch := omega) only [List.cons_append, List.nil_append, cons_lt_cons_iff]
    rcases Nat.lt_or_eq_of_le (order 262144) with first | first
    · exact Or.inl (by omega)
    refine Or.inr ⟨by omega, ?_⟩
    rcases Nat.lt_or_eq_of_le (order 4096) with second | second
    · exact Or.inl (by omega)
    refine Or.inr ⟨by omega, ?_⟩
    rcases Nat.lt_or_eq_of_le (order 64) with third | third
    · exact Or.inl (by omega)
    exact Or.inr ⟨by omega, Or.inl (by omega)⟩
  · repeat' split
    all_goals
      simp (disch := omega) only [List.cons_append, List.nil_append, cons_lt_cons_iff]
      omega

theorem utf8_lt {cs ds : List Char} (less : cs < ds) : utf8 cs < utf8 ds := by
  induction cs generalizing ds with
  | nil =>
    cases ds with
    | nil => exact absurd less (List.lt_irrefl _)
    | cons d ds =>
      obtain ⟨first, rest, bytes⟩ := List.exists_cons_of_ne_nil (String.utf8EncodeChar_ne_nil (c := d))
      rw [utf8_cons, bytes]
      exact List.nil_lt_cons _ _
  | cons c cs ih =>
    cases ds with
    | nil => exact absurd less (List.not_lt_nil _)
    | cons d ds =>
      rw [utf8_cons, utf8_cons]
      rcases List.cons_lt_cons_iff.mp less with first | ⟨rfl, later⟩
      · exact utf8EncodeChar_lt first _ _
      · exact List.append_left_lt (ih later)

/-- A text before another one has smaller bytes. -/
theorem bytesOf_lt {s t : String} (less : s < t) : bytesOf s < bytesOf t :=
  utf8_lt (String.lt_iff.mp less)

end ConnectorSchema.Text
