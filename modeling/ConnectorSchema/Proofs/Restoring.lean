import ConnectorSchema.Document.Writer
import ConnectorSchema.Proofs.RecordReading
import ConnectorSchema.Proofs.WrittenValue

/-!
Readers that read again what was written. A reader restores what it has read (`Restores`); one that
restores whatever is written for it inverts the writing (`Inverts`). Both are found for a record from
its fields, and for a list from its elements.
-/

namespace ConnectorSchema.Json

variable {α : Type} {least : Nat} {read : Reader α} {write : α → Value}

/-- What this reader has read it reads from the text written for it, given room for so many lists and
objects inside one another. -/
def Restores (least : Nat) (read : Reader α) (write : α → Value) : Prop :=
  ∀ room node a, least ≤ room → read room node = .ok a → (write a).DoublesReadBack →
    read room (write a).node = .ok a

def Inverts (read : Reader α) (write : α → Value) : Prop :=
  ∀ room a, (write a).DoublesReadBack → read room (write a).node = .ok a

/-- A field that was there, or left out, and is now written as `value?` still has its content. -/
def Regains (least : Nat) (read : Reader α) (absent : Option α) (value? : Option Value) (a : α) : Prop :=
  ∀ room node?, least ≤ room → Obtains read absent room node? a →
    (∀ v ∈ value?, v.DoublesReadBack) → Obtains read absent room (value?.map Value.node) a

theorem Value.node_eq_null_iff {v : Value} : v.node = .scalar .null ↔ v = .null := by
  cases v <;> simp [node]

theorem Inverts.restores (inverts : Inverts read write) : Restores least read write :=
  fun room _ a _ _ back => inverts room a back

/-! ## Readers -/

theorem inverts_readString : Inverts readString .string := fun room s _ => by
  rw [Value.node, readString, RawString.text_ofString]
  rfl

theorem inverts_readBoolean : Inverts readBoolean .boolean := fun _ _ _ => rfl

theorem inverts_readDouble : Inverts readDouble doubleValue := fun room d back => by
  have value : (Number.numeral (.double d)).value = .ok (.double d) := Number.value_numeral back
  rw [doubleValue, Value.node, readDouble, value]
  rfl

theorem inverts_readChoice {words : List (String × α)} {word : α → String}
    (known : ∀ a, words.lookup (word a) = some a) :
    Inverts (readChoice words) fun a => .string (word a) := fun room a _ => by
  have found : readWord words (word a) = .ok a := by rw [readWord, known]
  simp only [Value.node, readChoice, RawString.text_ofString]
  exact found

theorem restores_readValue : Restores least readValue id :=
  fun _ node _ _ found back => readValue_node node found back

/-- An alternative is written as the value of which it was picked, or as a double. -/
theorem restores_readAlternative {family : String} {pick : Value → Option α}
    (same : ∀ v a, pick v = some a → write a = v ∨ ∃ d, write a = doubleValue d)
    (again : ∀ v a, pick v = some a → pick (write a) = some a) :
    Restores least (readAlternative family pick) write := by
  intro room node a _ found back
  obtain ⟨v, value, picked⟩ := readAlternative_eq_ok_iff.mp found
  refine readAlternative_eq_ok_iff.mpr ⟨write a, ?_, again v a picked⟩
  rcases same v a picked with here | ⟨d, here⟩
  · rw [here] at back ⊢
    exact readValue_node node value back
  · rw [here] at back ⊢
    rw [doubleValue, Value.node, readValue, Number.value_numeral back]
    rfl

theorem Inverts.readOr (inverts : Inverts read write) (given : ∀ a, write a ≠ .null) (value : α) :
    Inverts (readOr value read) write := fun room a back =>
  readOr_eq_ok_iff.mpr
    (Or.inr ⟨fun null => given a (Value.node_eq_null_iff.mp null), inverts room a back⟩)

theorem Restores.readList (restores : Restores least read write) :
    Restores (least + 1) (readList read) fun values => .list (values.map write) := by
  intro room node values enough found back
  obtain ⟨less, items, rfl, rfl, parts⟩ := readList_eq_ok_iff.mp found
  clear found
  refine readList_eq_ok_iff.mpr ⟨less, _, rfl, rfl, ?_⟩
  rw [itemNodes_eq_map, List.map_map, List.forall₂_map_left_iff]
  have each : ∀ a ∈ values, (write a).DoublesReadBack := fun a member =>
    Value.doublesReadBack_list.mp back _ (List.mem_map_of_mem member)
  clear back
  induction parts with
  | nil => exact .nil
  | cons here _ ih =>
    exact .cons (restores less _ _ (by omega) here (each _ List.mem_cons_self))
      (ih fun a member => each a (List.mem_cons_of_mem _ member))

/-! ## Fields -/

theorem Inverts.regains (inverts : Inverts read write) (absent : Option α) (a : α) :
    Regains least read absent (some (write a)) a :=
  fun room _ _ _ back => inverts room a (back _ rfl)

theorem Restores.regains (restores : Restores least read write) (a : α) :
    Regains least read none (some (write a)) a := by
  intro room node? enough obtained back
  cases node? with
  | none => contradiction
  | some node => exact restores room node a enough obtained (back _ rfl)

theorem obtains_readOptional {room : Nat} {node? : Option Node} {a : α}
    (obtained : Obtains (readOptional read) (some none) room node? (some a)) :
    ∃ node, node ≠ .scalar .null ∧ read room node = .ok a := by
  cases node? with
  | none => exact absurd (Option.some.inj obtained) (Option.some_ne_none a).symm
  | some node =>
    rcases readOptional_eq_ok_iff.mp obtained with ⟨_, none⟩ | ⟨given, _, found, same⟩
    · contradiction
    · cases same
      exact ⟨node, given, found⟩

section

variable (restores : Restores least read write) (given : ∀ a, write a ≠ .null)

include restores given

/-- What stood for an optional field is not `null`, so it is not taken for an absent one. -/
theorem Restores.readOptional {room : Nat} {node? : Option Node} {a : α} (enough : least ≤ room)
    (obtained : Obtains (readOptional read) (some none) room node? (some a))
    (back : (write a).DoublesReadBack) : readOptional read room (write a).node = .ok (some a) := by
  obtain ⟨node, _, found⟩ := obtains_readOptional obtained
  exact readOptional_eq_ok_iff.mpr (Or.inr
    ⟨fun null => given a (Value.node_eq_null_iff.mp null), a, restores room node a enough found back, rfl⟩)

theorem Restores.orNull (o : Option α) :
    Regains least (Json.readOptional read) (some none) (orNull write o) o := by
  intro room node? enough obtained back
  cases o with
  | none => rfl
  | some a => exact restores.readOptional given enough obtained (back _ rfl)

theorem Restores.kept (o : Option α) :
    Regains least (Json.readOptional read) (some none) (o.map write) o := by
  intro room node? enough obtained back
  cases o with
  | none => rfl
  | some a => exact restores.readOptional given enough obtained (back _ rfl)

theorem Restores.readOr {value : α} (written : ∀ room, least ≤ room → read room (write value).node = .ok value)
    (a : α) : Regains least (Json.readOr value read) (some value) (some (write a)) a := by
  intro room node? enough obtained back
  refine readOr_eq_ok_iff.mpr
    (Or.inr ⟨fun null => given a (Value.node_eq_null_iff.mp null), ?_⟩)
  cases node? with
  | none =>
    cases obtained
    exact written room enough
  | some node =>
    rcases readOr_eq_ok_iff.mp obtained with ⟨_, rfl⟩ | ⟨_, found⟩
    · exact written room enough
    · exact restores room node a enough found (back _ rfl)

end

/-- A value that is kept as it is, whatever it is. It is never `null`, which is its absence. -/
theorem regains_value (o : Option Value) : Regains least (readOptional readValue) (some none) o o := by
  intro room node? enough obtained back
  cases o with
  | none => rfl
  | some v =>
    obtain ⟨node, given, found⟩ := obtains_readOptional obtained
    refine readOptional_eq_ok_iff.mpr (Or.inr ⟨fun null => ?_, v, readValue_node node found (back _ rfl), rfl⟩)
    rw [Value.node_eq_null_iff.mp null] at found
    exact given (node_of_readValue_null found)

/-! ## Records -/

namespace RecordForm

variable {form : RecordForm}

theorem mem_membersOf {value? : form.Field → Option Value} {m : String × Value} :
    m ∈ membersOf form.key value? form.fields ↔ ∃ f, ∃ v ∈ value? f, m = (form.key f, v) := by
  simp only [membersOf, List.mem_filterMap, Option.map_eq_some_iff, Option.mem_def]
  constructor
  · rintro ⟨f, _, v, found, rfl⟩
    exact ⟨f, v, found, rfl⟩
  · rintro ⟨f, v, found, rfl⟩
    exact ⟨f, form.complete f, v, found, rfl⟩

section

variable (distinct : form.KeysDistinct) (value? : form.Field → Option Value)

include distinct

theorem known_memberNodes : form.known (memberNodes (membersOf form.key value? form.fields))
    = form.fields.filterMap fun f => (value? f).map fun v => ⟨f, v.node⟩ := by
  have is (f : form.Field) : form.fieldOf? (.ofString (form.key f)) = some f :=
    (fieldOf?_eq (RawString.text_ofString _)).trans (field?_key distinct f)
  rw [known, memberNodes_eq_map, membersOf, List.map_filterMap, List.filterMap_filterMap]
  refine List.filterMap_congr fun f _ => ?_
  cases value? f <;> simp [is]

theorem keys_known_memberNodes :
    (form.known (memberNodes (membersOf form.key value? form.fields))).keys.Sublist form.fields := by
  rw [known_memberNodes distinct, List.keys, List.map_filterMap]
  have kept : (fun f => ((value? f).map fun v => (⟨f, v.node⟩ : Σ _ : form.Field, Node)).map Sigma.fst)
      = Option.guard fun f => (value? f).isSome := by
    funext f
    cases found : value? f <;> simp [Option.guard, found]
  rw [kept, List.filterMap_eq_filter]
  exact List.filter_sublist

theorem nodupKeys_known_memberNodes :
    (form.known (memberNodes (membersOf form.key value? form.fields))).NodupKeys :=
  (keys_known_memberNodes distinct value?).nodup (List.Nodup.of_map _ distinct)

theorem dlookup_known_memberNodes (f : form.Field) :
    (form.known (memberNodes (membersOf form.key value? form.fields))).dlookup f
      = (value? f).map Value.node := by
  have once := nodupKeys_known_memberNodes distinct value?
  refine Option.ext fun node => ?_
  rw [← Option.mem_def, List.mem_dlookup_iff once, known_memberNodes distinct]
  simp only [List.mem_filterMap, Option.map_eq_some_iff]
  constructor
  · rintro ⟨g, _, v, found, same⟩
    cases same
    exact ⟨v, found, rfl⟩
  · rintro ⟨v, found, rfl⟩
    exact ⟨f, form.complete f, v, found, rfl⟩

/-- A record is read from an object with its fields. -/
theorem readRecord_membersOf {room : Nat} {v : Filled form}
    (each : ∀ f, Obtains (form.read f) (form.absent f) room ((value? f).map Value.node) (v f)) :
    form.readRecord (room + 1) (Value.object (membersOf form.key value? form.fields)).node = .ok v := by
  refine readRecord_object_iff.mpr ⟨rfl, room, rfl, ⟨fun m member => ?_, ?_⟩, fun f => ?_⟩
  · rw [memberNodes_eq_map] at member
    obtain ⟨written, inMembers, rfl⟩ := List.mem_map.mp member
    obtain ⟨f, v, _, rfl⟩ := mem_membersOf.mp inMembers
    refine ⟨form.key f, RawString.text_ofString _, fun unknown => ?_⟩
    rw [field?_key distinct] at unknown
    contradiction
  · exact nodupKeys_known_memberNodes distinct value?
  · rw [dlookup_known_memberNodes distinct]
    exact each f

end

/-- A record is restored when each of its fields is. -/
theorem restores {Record : Type} {make : Filled form → Record}
    {value? : Record → form.Field → Option Value} (distinct : form.KeysDistinct)
    (regains : ∀ v f, Regains least (form.read f) (form.absent f) (value? (make v) f) (v f)) :
    Restores (least + 1) (fun room node => (form.readRecord room node).map make)
      fun r => .object (membersOf form.key (value? r) form.fields) := by
  intro room node r enough found back
  obtain ⟨v, read, rfl⟩ := map_eq_ok_iff.mp found
  obtain ⟨less, rfl, obtains⟩ := obtains_of_readRecord read
  -- The record may have been written as a list; it is written as an object now.
  refine map_eq_ok_iff.mpr ⟨v, readRecord_membersOf distinct _ fun f => ?_, rfl⟩
  obtain ⟨node?, obtained⟩ := obtains f
  refine regains v f less node? (by omega) obtained fun w written => ?_
  exact Value.doublesReadBack_object.mp back _ (mem_membersOf.mpr ⟨f, w, written, rfl⟩)

end RecordForm

end ConnectorSchema.Json
