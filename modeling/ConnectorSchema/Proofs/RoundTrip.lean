import ConnectorSchema.Document.Form
import ConnectorSchema.Proofs.Restoring

/-!
A document that was read is read again from its own text (`Document.ofJson_toValue`). The four kinds of
record in it restore their fields one by one; what each of them needs room for is a list or an object
more than its deepest field.
-/

namespace ConnectorSchema

open Json

/-! ## Literals, choices and words -/

theorem Literal.toValue_of_ofValue? {v : Value} {l : Literal} (picked : ofValue? v = some l) :
    l.toValue = v ∨ ∃ d, l.toValue = doubleValue d := by
  unfold ofValue? at picked
  split at picked
  case h_1 => contradiction
  case h_3 n =>
    split at picked
    · rename_i k inRange
      split at picked
      · rename_i word found
        cases picked
        refine Or.inl ?_
        simp only [toValue, Json.Number.ofInt64, Number.toInt_of_int64? found]
      · obtain ⟨d, _, rfl⟩ := Option.map_eq_some_iff.mp picked
        exact Or.inr ⟨d, rfl⟩
    · cases picked
      exact Or.inl rfl
  all_goals
    cases picked
    exact Or.inl rfl

theorem Literal.ofValue?_toValue (l : Literal) : ofValue? l.toValue = some l := by
  cases l with
  | integer n => simp [toValue, Json.Number.ofInt64, ofValue?, Number.int64?_toInt]
  | _ => rfl

theorem Choice.ofValue?_toValue (c : Choice) : ofValue? c.toValue = some c := by
  have literal (l : Literal) := Literal.ofValue?_toValue l
  cases c with
  | boolean b => rfl
  | integer n => rw [ofValue?, show (integer n).toValue = (Literal.integer n).toValue from rfl, literal]
  | double d => rfl
  | string s => rfl

/-- A choice is one of the literals, and written as that. -/
theorem Choice.literal_of_ofValue? {v : Value} {c : Choice} (picked : ofValue? v = some c) :
    ∃ l, Literal.ofValue? v = some l ∧ c.toValue = l.toValue := by
  unfold ofValue? at picked
  split at picked
  case h_5 => contradiction
  all_goals
    rename_i found
    cases picked
    exact ⟨_, found, rfl⟩

theorem KafkaSetting.toValue_of_ofValue? {v : Value} {k : KafkaSetting}
    (picked : ofValue? v = some k) : k.toValue = v := by
  unfold ofValue? at picked
  split at picked
  case h_3 => contradiction
  all_goals
    cases picked
    rfl

theorem KafkaSetting.ofValue?_toValue (k : KafkaSetting) : ofValue? k.toValue = some k := by
  cases k <;> rfl

theorem Literal.reader_restores {least : Nat} {family : String} :
    Restores least (readAlternative family ofValue?) toValue :=
  restores_readAlternative (fun _ _ picked => toValue_of_ofValue? picked)
    fun _ l _ => ofValue?_toValue l

theorem Choice.reader_restores {least : Nat} {family : String} :
    Restores least (readAlternative family ofValue?) toValue := by
  refine restores_readAlternative (fun v c picked => ?_) fun _ c _ => ofValue?_toValue c
  obtain ⟨l, found, same⟩ := literal_of_ofValue? picked
  rw [same]
  exact Literal.toValue_of_ofValue? found

theorem KafkaSetting.reader_restores {least : Nat} {family : String} :
    Restores least (readAlternative family ofValue?) toValue :=
  restores_readAlternative (fun _ _ picked => Or.inl (toValue_of_ofValue? picked))
    fun _ k _ => ofValue?_toValue k

theorem Origin.reader_inverts : Inverts (readChoice words) fun o => .string o.word :=
  inverts_readChoice fun o => by cases o <;> decide

theorem Operator.reader_inverts : Inverts (readChoice words) fun o => .string o.word :=
  inverts_readChoice fun o => by cases o <;> decide

/-- The tag of a control is the one that was read, known or not. -/
theorem Control.reader_restores {least : Nat} :
    Restores least (fun room node => (readString room node).map ofTag) fun c => .string c.tag := by
  intro room node c _ found back
  obtain ⟨tag, _, rfl⟩ := map_eq_ok_iff.mp found
  refine map_eq_ok_iff.mpr ⟨tag, ?_, rfl⟩
  have again := inverts_readString room tag fun _ => (absurd · List.not_mem_nil)
  simpa only [tag_ofTag] using again

/-! ## Records -/

theorem Input.keysDistinct : form.KeysDistinct := by unfold RecordForm.KeysDistinct; decide

theorem Condition.keysDistinct : form.KeysDistinct := by unfold RecordForm.KeysDistinct; decide

theorem Entry.keysDistinct : form.KeysDistinct := by unfold RecordForm.KeysDistinct; decide

theorem Document.keysDistinct : form.KeysDistinct := by unfold RecordForm.KeysDistinct; decide

/-- The choices are a list of scalars, and that list is written even where there was none. -/
theorem Input.reader_restores : Restores 2 Input.reader toValue := by
  refine RecordForm.restores keysDistinct fun v f => ?_
  cases f with
  | control => exact Control.reader_restores.regains (v .control)
  | origin => exact Origin.reader_inverts.regains (some .raw) (v .origin)
  | defaultValue => exact Literal.reader_restores.orNull (fun l => by cases l <;> exact Value.noConfusion) _
  | choices =>
    -- Absent choices are written as an empty list, which takes up room that their absence did not.
    refine Choice.reader_restores.readList.readOr (fun _ => Value.noConfusion) (fun room enough => ?_) _
    obtain ⟨less, rfl⟩ : ∃ less, room = less + 1 := ⟨room - 1, by omega⟩
    rfl
  | min | max | step =>
    exact inverts_readDouble.restores.orNull (fun _ => Value.noConfusion) _
  | readonly | placeholder | rows | multiline | validation | functionName | dependencies =>
    exact regains_value _

theorem Condition.reader_restores {least : Nat} : Restores (least + 1) Condition.reader toValue := by
  refine RecordForm.restores keysDistinct fun v f => ?_
  cases f with
  | operator => exact Operator.reader_inverts.regains none (v .operator)
  | entry => exact inverts_readString.regains none (v .entry)
  | value => exact restores_readValue.regains (v .value)

theorem Entry.reader_restores : Restores 3 Entry.reader toValue := by
  refine RecordForm.restores keysDistinct fun v f => ?_
  cases f with
  | name => exact inverts_readString.regains none (v .name)
  | userDefined => exact inverts_readBoolean.regains none (v .userDefined)
  | required => exact inverts_readBoolean.restores.orNull (fun _ => Value.noConfusion) _
  | description | displayName =>
    exact inverts_readString.restores.orNull (fun _ => Value.noConfusion) _
  | encrypt | setOnce =>
    exact (inverts_readBoolean.readOr (fun _ => Value.noConfusion) false).regains (some false) _
  | conditions => exact Condition.reader_restores.readList.kept (fun _ => Value.noConfusion) _
  | kafka => exact KafkaSetting.reader_restores.kept (fun k => by cases k <;> exact Value.noConfusion) _
  | input => exact Input.reader_restores.regains (v .input)

theorem Document.reader_restores : Restores 5 Document.reader toValue := by
  refine RecordForm.restores keysDistinct fun v f => ?_
  cases f with
  | displayName => exact inverts_readString.regains none (v .displayName)
  | description => exact inverts_readString.restores.orNull (fun _ => Value.noConfusion) _
  | schemaLevels | serialisation => exact regains_value _
  | debeziumConnectorName => exact inverts_readString.restores.kept (fun _ => Value.noConfusion) _
  | entries => exact Entry.reader_restores.readList.regains (v .entries)

/-- What was read of a whole text is read again from what is written for it. -/
theorem Json.read_restores {α : Type} {least : Nat} {reader : Reader α} {write : α → Value}
    (restores : Restores least reader write) (enough : least ≤ nestingLimit) {text : String} {a : α}
    (found : Json.read reader text = .ok a) (back : (write a).DoublesReadBack) :
    Json.read reader (write a).text = .ok a := by
  obtain ⟨rooted, _⟩ := read_eq_ok_iff.mp found
  rw [read_text]
  exact restores _ _ a enough rooted back

/-- The text of a document that was read is accepted and gives the same document, hence the same text
again, if the doubles in it are read back from what is written for them. -/
theorem Document.ofJson_toValue {text : String} {d : Document} (found : ofJson text = .ok d)
    (back : ∀ x ∈ d.toValue.doubles, x.ReadsBack) :
    ∃ again, ofJson d.toValue.text = .ok again ∧ again = d ∧ again.toValue.text = d.toValue.text :=
  ⟨d, Json.read_restores reader_restores (by decide) found back, rfl, rfl⟩

/-- A half is written in its own way, and what was left out is there. -/
theorem Document.ofJson_toValue_half :
    ∃ d, ofJson "\x7b\"display_name\":\"S\",\"schema_levels\":[0.50],\"config\":[]\x7d" = .ok d
      ∧ d.toValue.text
        = "\x7b\"display_name\":\"S\",\"description\":null,\"schema_levels\":[0.5],\"config\":[]\x7d"
      ∧ ofJson d.toValue.text = .ok d := by
  let text := "\x7b\"display_name\":\"S\",\"schema_levels\":[0.50],\"config\":[]\x7d"
  let half : Number.Double := ⟨false, 4503599627370496, -53, by decide⟩
  have written : (ofJson text).toOption.map (fun d => (d.toValue.text, d.toValue.doubles))
      = some ("\x7b\"display_name\":\"S\",\"description\":null,"
        ++ "\"schema_levels\":[0.5],\"config\":[]\x7d", [half]) := by
    decide +kernel
  have back : half.ReadsBack := readsBack_iff.mpr (by decide +kernel)
  cases found : ofJson text with
  | error e =>
    rw [found] at written
    contradiction
  | ok d =>
    rw [found] at written
    obtain ⟨written, doubles⟩ := Prod.mk.inj (Option.some.inj written)
    obtain ⟨_, again, rfl, _⟩ := Document.ofJson_toValue found fun x member => by
      rw [doubles, List.mem_singleton] at member
      exact member ▸ back
    exact ⟨_, rfl, written, again⟩

end ConnectorSchema
