import ConnectorSchema.Json.Reader
import ConnectorSchema.Proofs.Except

/-!
What a reader has seen when it succeeds: one lemma for each of them.
-/

namespace ConnectorSchema.Json

variable {α : Type} {room : Nat} {node : Node}

theorem liftFault_eq_ok_iff {result : Except Fault α} {a : α} :
    liftFault result = .ok a ↔ result = .ok a := by
  cases result <;> simp [liftFault, Except.mapError]

theorem mismatch_ne_ok {expected : String} {found : Except Fault Found} {a : α} :
    mismatch expected found ≠ .ok a := by
  intro read
  obtain ⟨_, _, failed⟩ := bind_eq_ok_iff.mp read
  contradiction

theorem enter_eq_ok_iff {inside : Nat → Except ReadError α} {a : α} :
    enter room inside = .ok a ↔ ∃ less, room = less + 1 ∧ inside less = .ok a := by
  cases room <;> simp [enter]

theorem endOr_eq_ok_iff {Stop : Type} {fault : Stop → Fault} {stop : Option Stop} :
    endOr fault stop = .ok () ↔ stop = none := by
  cases stop <;> simp [endOr]

theorem readOptional_eq_ok_iff {read : Reader α} {o : Option α} :
    readOptional read room node = .ok o ↔ node = .scalar .null ∧ o = none
      ∨ node ≠ .scalar .null ∧ ∃ a, read room node = .ok a ∧ o = some a := by
  unfold readOptional
  split
  · simp [eq_comm]
  · rename_i given
    have given : node ≠ .scalar .null := given
    simp [map_eq_ok_iff, given, @eq_comm _ o]

theorem readOr_eq_ok_iff {read : Reader α} {value a : α} :
    readOr value read room node = .ok a ↔ node = .scalar .null ∧ a = value
      ∨ node ≠ .scalar .null ∧ read room node = .ok a := by
  unfold readOr
  split
  · simp [eq_comm]
  · rename_i given
    have given : node ≠ .scalar .null := given
    simp [given]

theorem readList_eq_ok_iff {read : Reader α} {values : List α} :
    readList read room node = .ok values ↔ ∃ less items, room = less + 1 ∧ node = .list items none
      ∧ List.Forall₂ (fun node a => read less node = .ok a) items values := by
  unfold readList
  split
  · rename_i items stop
    simp only [enter_eq_ok_iff, bind_eq_ok_iff, liftFault_eq_ok_iff, mapM_eq_ok_iff]
    constructor
    · rintro ⟨less, enough, values, parts, _, closed, same⟩
      cases endOr_eq_ok_iff.mp closed
      cases same
      exact ⟨less, items, enough, rfl, parts⟩
    · rintro ⟨less, _, enough, same, parts⟩
      cases same
      exact ⟨less, enough, values, parts, (), rfl, rfl⟩
  · rename_i other
    constructor
    · exact fun read => absurd read mismatch_ne_ok
    · rintro ⟨_, _, _, same, _⟩
      exact absurd same (other _ _)

/-- Nothing but `null` is read as such. -/
theorem node_of_readValue_null (read : readValue room node = .ok .null) : node = .scalar .null := by
  cases node with
  | scalar s =>
    cases s with
    | null => rfl
    | boolean | broken => cases read
    | numeral | string =>
      obtain ⟨_, _, same⟩ := map_eq_ok_iff.mp read
      contradiction
  | list | object =>
    rw [readValue] at read
    obtain ⟨_, _, inside⟩ := enter_eq_ok_iff.mp read
    obtain ⟨_, _, closed⟩ := bind_eq_ok_iff.mp inside
    obtain ⟨_, _, same⟩ := bind_eq_ok_iff.mp closed
    cases same

/-- A document is read from the tree of its text, which must end there. -/
theorem read_eq_ok_iff {reader : Reader α} {text : String} {a : α} :
    read reader text = .ok a
      ↔ reader nestingLimit (scan text).root = .ok a ∧ (scan text).trailing = false := by
  rw [read, bind_eq_ok_iff]
  cases (scan text).trailing <;> simp [pure, Except.pure]

theorem readAlternative_eq_ok_iff {family : String} {pick : Value → Option α} {a : α} :
    readAlternative family pick room node = .ok a
      ↔ ∃ v, readValue room node = .ok v ∧ pick v = some a := by
  simp only [readAlternative, bind_eq_ok_iff]
  refine exists_congr fun v => and_congr_right fun _ => ?_
  cases pick v <;> simp

end ConnectorSchema.Json
