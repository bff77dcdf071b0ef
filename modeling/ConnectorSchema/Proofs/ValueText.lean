import ConnectorSchema.Proofs.WrittenValue

/-!
Values that stand alone. With more room a value is read as with less, and no character in the text of a
value is a control character below the space.
-/

namespace ConnectorSchema.Json

/-! ## More room -/

mutual

theorem readValue_of_le : (node : Node) → {room more : Nat} → {v : Value} → room ≤ more →
    readValue room node = .ok v → readValue more node = .ok v
  | .scalar s, room, more, v, _, read => by cases s <;> exact read
  | .list items stop, room, more, v, enough, read => by
    rw [readValue] at read ⊢
    obtain ⟨less, rfl, inside⟩ := enter_eq_ok_iff.mp read
    obtain ⟨values, parts, closed⟩ := bind_eq_ok_iff.mp inside
    refine enter_eq_ok_iff.mpr ⟨more - 1, by omega, bind_eq_ok_iff.mpr ⟨values, ?_, closed⟩⟩
    exact readItems_of_le items (by omega) parts
  | .object members stop, room, more, v, enough, read => by
    rw [readValue] at read ⊢
    obtain ⟨less, rfl, inside⟩ := enter_eq_ok_iff.mp read
    obtain ⟨values, parts, closed⟩ := bind_eq_ok_iff.mp inside
    refine enter_eq_ok_iff.mpr ⟨more - 1, by omega, bind_eq_ok_iff.mpr ⟨values, ?_, closed⟩⟩
    exact readMembers_of_le members (by omega) parts

theorem readItems_of_le : (items : List Node) → {room more : Nat} → {values : List Value} →
    room ≤ more → readItems room items = .ok values → readItems more items = .ok values
  | [], _, _, _, _, read => read
  | item :: rest, room, more, values, enough, read => by
    rw [readItems] at read ⊢
    obtain ⟨value, first, others⟩ := bind_eq_ok_iff.mp read
    obtain ⟨later, readLater, same⟩ := bind_eq_ok_iff.mp others
    exact bind_eq_ok_iff.mpr ⟨value, readValue_of_le item enough first,
      bind_eq_ok_iff.mpr ⟨later, readItems_of_le rest enough readLater, same⟩⟩

theorem readMembers_of_le : (members : List (RawString × Node)) → {room more : Nat} →
    {values : List (String × Value)} → room ≤ more →
    readMembers room members = .ok values → readMembers more members = .ok values
  | [], _, _, _, _, read => read
  | (key, node) :: rest, room, more, values, enough, read => by
    rw [readMembers] at read ⊢
    obtain ⟨name, text, inside⟩ := bind_eq_ok_iff.mp read
    obtain ⟨value, first, others⟩ := bind_eq_ok_iff.mp inside
    obtain ⟨later, readLater, same⟩ := bind_eq_ok_iff.mp others
    exact bind_eq_ok_iff.mpr ⟨name, text, bind_eq_ok_iff.mpr ⟨value, readValue_of_le node enough first,
      bind_eq_ok_iff.mpr ⟨later, readMembers_of_le rest enough readLater, same⟩⟩⟩

end

/-! ## Characters -/

/-- The characters that may stand in a JSON text outside of its blanks. -/
def Printable (cs : List Char) : Prop := ∀ c ∈ cs, 32 ≤ c.toNat

instance (cs : List Char) : Decidable (Printable cs) :=
  List.decidableBAll (fun c : Char => 32 ≤ c.toNat) cs

theorem Printable.append {a b : List Char} (left : Printable a) (right : Printable b) :
    Printable (a ++ b) :=
  List.forall_mem_append.mpr ⟨left, right⟩

theorem Printable.cons {c : Char} {cs : List Char} (first : 32 ≤ c.toNat) (rest : Printable cs) :
    Printable (c :: cs) :=
  List.forall_mem_cons.mpr ⟨first, rest⟩

theorem Printable.nil : Printable [] := List.forall_mem_nil _

theorem IsDigits.printable {digits : List Char} (all : IsDigits digits) : Printable digits := by
  intro c member
  have digit := (Number.isDigit_iff.mp (all.2 c member)).1
  omega

theorem FractionSpelt.printable {fraction text : List Char} (spelt : FractionSpelt fraction text) :
    Printable text := by
  cases spelt with
  | absent => exact .nil
  | digits all => exact .cons (by decide) all.printable

theorem ExponentSpelt.printable {exponent : Option (Bool × List Char)} {text : List Char}
    (spelt : ExponentSpelt exponent text) : Printable text := by
  have letter {e : Char} (isLetter : e = 'e' ∨ e = 'E') : 32 ≤ e.toNat := by
    rcases isLetter with rfl | rfl <;> decide
  cases spelt with
  | absent => exact .nil
  | negative isLetter all => exact .cons (letter isLetter) (.cons (by decide) all.printable)
  | positive isLetter all => exact .cons (letter isLetter) (.cons (by decide) all.printable)
  | unsigned isLetter all => exact .cons (letter isLetter) all.printable

theorem Numeral.SpeltBy.printable {n : Numeral} {text : List Char} (spelt : n.SpeltBy text) :
    Printable text := by
  obtain ⟨whole, point, power, fraction, exponent, rfl⟩ := spelt
  have sign : Printable (if n.negative then ['-'] else []) := by
    split
    · exact .cons (by decide) .nil
    · exact .nil
  exact ((sign.append whole.digits.printable).append fraction.printable).append exponent.printable

theorem printable_escapedChar (c : Char) : Printable (escapedChar c) := by
  have digit (n : Nat) (small : n < 16) : 32 ≤ (Nat.digitChar n).toNat := by
    have all : ∀ n < 16, 32 ≤ (Nat.digitChar n).toNat := by decide
    exact all n small
  unfold escapedChar
  split
  case h_8 =>
    split
    · rename_i small
      exact .cons (by decide) <| .cons (by decide) <| .cons (by decide) <| .cons (by decide) <|
        .cons (digit _ (by omega)) <| .cons (digit _ (by omega)) .nil
    · rename_i large
      exact .cons (by omega) .nil
  all_goals exact .cons (by decide) (.cons (by decide) .nil)

theorem printable_stringChars (s : String) : Printable (stringChars s) := by
  have inner : Printable (s.toList.flatMap escapedChar) := by
    intro c member
    obtain ⟨written, _, inChar⟩ := List.mem_flatMap.mp member
    exact printable_escapedChar written c inChar
  exact (Printable.cons (by decide) inner).append (.cons (by decide) .nil)

theorem printable_separated {texts : List (List Char)} (each : ∀ text ∈ texts, Printable text) :
    Printable (separated texts) := by
  induction texts with
  | nil => exact .nil
  | cons text rest ih =>
    obtain ⟨first, later⟩ := List.forall_mem_cons.mp each
    cases rest with
    | nil => exact first
    | cons => exact first.append (.cons (by decide) (ih later))

mutual

theorem Value.printable_chars : (v : Value) → Printable v.chars
  | .null | .boolean true | .boolean false => by
    rw [Value.chars]
    decide
  | .number n => n.numeral_speltBy.printable
  | .string s => printable_stringChars s
  | .list items =>
    (Printable.cons (by decide) (printable_separated (printable_itemChars items))).append
      (.cons (by decide) .nil)
  | .object members =>
    (Printable.cons (by decide) (printable_separated (printable_memberChars members))).append
      (.cons (by decide) .nil)

theorem printable_itemChars : (items : List Value) → ∀ text ∈ itemChars items, Printable text
  | [] => List.forall_mem_nil _
  | item :: rest => List.forall_mem_cons.mpr ⟨item.printable_chars, printable_itemChars rest⟩

theorem printable_memberChars : (members : List (String × Value)) →
    ∀ text ∈ memberChars members, Printable text
  | [] => List.forall_mem_nil _
  | (key, value) :: rest =>
    List.forall_mem_cons.mpr
      ⟨(printable_stringChars key).append (.cons (by decide) value.printable_chars),
        printable_memberChars rest⟩

end

/-- The text of a value stands on one line. -/
theorem Value.notMem_text (v : Value) {c : Char} (control : c.toNat < 32) : c ∉ v.text.toList := by
  rw [text, String.toList_ofList]
  intro member
  have shown := v.printable_chars c member
  omega

end ConnectorSchema.Json
