import ConnectorSchema.Proofs.RecordReading
import ConnectorSchema.Proofs.Spelling

/-!
Changes to a text that a reader of records does not notice: to the order of members, to members that
are not known, and to members whose `null` says no more than their absence. A change is made in one
place of a tree; a reader that keeps what it has read over the changes in each field keeps it over the
changes in the record (`RecordForm.keeps`).
-/

namespace ConnectorSchema.Json

variable {α : Type}

/-! ## Passing over values -/

mutual

/-- Any value of JSON can be passed over, however deep it is. -/
theorem Node.skip_of_speltBy : (node : Node) → {text : List Char} → node.SpeltBy text →
    node.skip = .ok ()
  | .scalar s, text, spelt => by
    cases s with
    | broken => exact spelt.elim
    | string s =>
      obtain ⟨closed, _⟩ := spelt
      simp only [Node.skip, Scalar.skip, RawString.skip, closed]
    | null | boolean | numeral => rfl
  | .list items stop, text, spelt => by
    obtain ⟨rfl, _, _, parts, _⟩ := spelt
    rw [Node.skip, skipItems_of_spelt items parts]
    rfl
  | .object members stop, text, spelt => by
    obtain ⟨rfl, _, _, parts, _⟩ := spelt
    rw [Node.skip, skipMembers_of_spelt members parts]
    rfl

theorem skipItems_of_spelt : (items : List Node) → {texts : List (List Char)} →
    ItemsSpelt items texts → skipItems items = .ok ()
  | [], texts, _ => rfl
  | item :: rest, texts, parts => by
    obtain ⟨_, _, _, _, _, spelt, _, others, _⟩ := parts
    rw [skipItems, item.skip_of_speltBy spelt, skipItems_of_spelt rest others]
    rfl

theorem skipMembers_of_spelt : (members : List (RawString × Node)) → {texts : List (List Char)} →
    MembersSpelt members texts → skipMembers members = .ok ()
  | [], texts, _ => rfl
  | (key, value) :: rest, texts, parts => by
    obtain ⟨_, _, _, _, _, _, _, _, ⟨closed, _⟩, _, _, spelt, _, others, _⟩ := parts
    have name : key.skip = .ok () := by rw [RawString.skip, closed]
    rw [skipMembers, name, value.skip_of_speltBy spelt, skipMembers_of_spelt rest others]
    rfl

end

/-! ## Changes -/

/-- Whatever this reader has read it still reads after such a change. -/
def Keeps (read : Reader α) (changed : Node → Node → Prop) : Prop :=
  ∀ room node other a, changed node other → read room node = .ok a → read room other = .ok a

/-- A change within one element of a list. -/
inductive ItemChanged (within : Node → Node → Prop) : Node → Node → Prop
  | item {before after : List Node} {node other : Node} : within node other →
      ItemChanged within (.list (before ++ node :: after) none) (.list (before ++ other :: after) none)

namespace RecordForm

variable (form : RecordForm)

/-- A change to the members of an object. The fields in `optional` are those that may be `null`. -/
inductive Rearranged (optional : List form.Field) :
    List (RawString × Node) → List (RawString × Node) → Prop
  | reordered {members others : List (RawString × Node)} : members.Perm others →
      Rearranged optional members others
  | unknownAdded {before after : List (RawString × Node)} {key : RawString} {name : String}
      {value : Node} {text : List Char} : key.text = .ok name → name ∉ form.fields.map form.key →
      value.SpeltBy text → Rearranged optional (before ++ after) (before ++ (key, value) :: after)
  | nullAdded {before after : List (RawString × Node)} {key : RawString} {f : form.Field} :
      f ∈ optional → key.text = .ok (form.key f) →
      (∀ m ∈ before ++ after, m.1.text ≠ .ok (form.key f)) →
      Rearranged optional (before ++ after) (before ++ (key, .scalar .null) :: after)
  | nullRemoved {before after : List (RawString × Node)} {key : RawString} {f : form.Field} :
      f ∈ optional → key.text = .ok (form.key f) →
      Rearranged optional (before ++ (key, .scalar .null) :: after) (before ++ after)

/-- A change to a record: to its members, or within one of its fields. -/
inductive Changed (optional : List form.Field) (within : form.Field → Node → Node → Prop) :
    Node → Node → Prop
  | members {members others : List (RawString × Node)} : form.Rearranged optional members others →
      Changed optional within (.object members none) (.object others none)
  | member {before after : List (RawString × Node)} {key : RawString} {f : form.Field}
      {node other : Node} : key.text = .ok (form.key f) → within f node other →
      Changed optional within (.object (before ++ (key, node) :: after) none)
        (.object (before ++ (key, other) :: after) none)
  | item {before after : List Node} {f : form.Field} {node other : Node} :
      form.fields[before.length]? = some f → within f node other →
      Changed optional within (.list (before ++ node :: after) none)
        (.list (before ++ other :: after) none)

end RecordForm

/-! ## Readers -/

theorem Keeps.map {β : Type} {read : Reader α} {changed : Node → Node → Prop}
    (keeps : Keeps read changed) (make : α → β) :
    Keeps (fun room node => (read room node).map make) changed := by
  intro room node other b changed found
  obtain ⟨a, read, rfl⟩ := map_eq_ok_iff.mp found
  exact map_eq_ok_iff.mpr ⟨a, keeps room node other a changed read, rfl⟩

/-- No change at all. -/
theorem Keeps.never {read : Reader α} : Keeps read fun _ _ => False :=
  fun _ _ _ _ changed => changed.elim

theorem Keeps.readList {read : Reader α} {within : Node → Node → Prop} (keeps : Keeps read within) :
    Keeps (readList read) (ItemChanged within) := by
  intro room node other values changed found
  obtain ⟨inside⟩ := changed
  obtain ⟨less, items, rfl, same, parts⟩ := readList_eq_ok_iff.mp found
  cases same
  refine readList_eq_ok_iff.mpr ⟨less, _, rfl, rfl, ?_⟩
  rename_i before after node other
  clear found
  induction before generalizing values with
  | nil =>
    obtain ⟨a, rest, here, later, rfl⟩ := List.forall₂_cons_left_iff.mp parts
    exact .cons (keeps _ _ _ _ inside here) later
  | cons first before ih =>
    obtain ⟨a, rest, here, later, rfl⟩ := List.forall₂_cons_left_iff.mp parts
    exact .cons here (ih rest later)

theorem Keeps.readOptional {read : Reader α} {within : Node → Node → Prop}
    (keeps : Keeps read (ItemChanged within)) : Keeps (readOptional read) (ItemChanged within) := by
  intro room node other o changed found
  rcases readOptional_eq_ok_iff.mp found with ⟨rfl, _⟩ | ⟨_, a, read, rfl⟩
  · contradiction
  · have again := keeps room node other a changed read
    obtain ⟨_⟩ := changed
    exact readOptional_eq_ok_iff.mpr (Or.inr ⟨Node.noConfusion, a, again, rfl⟩)

namespace RecordForm

variable {form : RecordForm} {room : Nat}

/-! ## Objects -/

section

variable {members others rest : List (RawString × Node)} {stop : Option ObjectStop} {v : Filled form}
  {key : RawString} {name : String} {node other : Node} {f : form.Field}

theorem readRecord_perm (perm : members.Perm others)
    (read : form.readRecord room (.object members stop) = .ok v) :
    form.readRecord room (.object others stop) = .ok v := by
  obtain ⟨closed, less, enough, ⟨passes, once⟩, obtains⟩ := readRecord_object_iff.mp read
  have nodes : (form.known members).Perm (form.known others) := perm.filterMap _
  refine readRecord_object_iff.mpr ⟨closed, less, enough,
    ⟨fun m member => passes m (perm.mem_iff.mpr member), (List.perm_nodupKeys nodes).mp once⟩,
    fun f => ?_⟩
  rw [← List.perm_dlookup f once nodes]
  exact obtains f

theorem readRecord_unknown (text : key.text = .ok name) (unknown : form.field? name = none)
    (skipped : node.skip = .ok ()) (read : form.readRecord room (.object rest stop) = .ok v) :
    form.readRecord room (.object ((key, node) :: rest) stop) = .ok v := by
  obtain ⟨closed, less, enough, accepted, obtains⟩ := readRecord_object_iff.mp read
  have none : form.fieldOf? key = none := (fieldOf?_eq text).trans unknown
  refine readRecord_object_iff.mpr
    ⟨closed, less, enough, (accepts_unknown text unknown).mpr ⟨skipped, accepted⟩, ?_⟩
  rwa [known_unknown none]

/-- With the member of a field in front, that field is read from it and the others from the rest. -/
theorem readRecord_known_iff (text : key.text = .ok name) (is : form.field? name = some f) :
    form.readRecord room (.object ((key, node) :: rest) stop) = .ok v
      ↔ stop = none ∧ ∃ less, room = less + 1 ∧ f ∉ (form.known rest).keys ∧ form.Accepts rest
        ∧ form.read f less node = .ok (v f)
        ∧ ∀ g, g ≠ f →
          Obtains (form.read g) (form.absent g) less ((form.known rest).dlookup g) (v g) := by
  have field : form.fieldOf? key = some f := (fieldOf?_eq text).trans is
  rw [readRecord_object_iff, accepts_known text is, known_cons field]
  refine and_congr_right fun _ => exists_congr fun less => and_congr_right fun _ => ?_
  rw [and_assoc]
  refine and_congr_right fun _ => and_congr_right fun _ => ?_
  constructor
  · intro obtains
    refine ⟨?_, fun g different => ?_⟩
    · have here := obtains f
      rwa [List.dlookup_cons_eq] at here
    · have there := obtains g
      rwa [List.dlookup_cons_ne _ _ different] at there
  · rintro ⟨here, there⟩ g
    by_cases same : g = f
    · subst same
      rwa [List.dlookup_cons_eq]
    · rw [List.dlookup_cons_ne _ _ same]
      exact there g same

theorem readRecord_replace (text : key.text = .ok name) (is : form.field? name = some f)
    (keeps : ∀ less, form.read f less node = .ok (v f) → form.read f less other = .ok (v f))
    (read : form.readRecord room (.object ((key, node) :: rest) stop) = .ok v) :
    form.readRecord room (.object ((key, other) :: rest) stop) = .ok v := by
  obtain ⟨closed, less, enough, new, accepted, here, there⟩ := (readRecord_known_iff text is).mp read
  exact (readRecord_known_iff text is).mpr
    ⟨closed, less, enough, new, accepted, keeps less here, there⟩

/-- A `null` that is read as its own absence does not matter. -/
theorem readRecord_null_iff (text : key.text = .ok name) (is : form.field? name = some f)
    (null : ∀ less a, form.read f less (.scalar .null) = .ok a ↔ form.absent f = some a) :
    form.readRecord room (.object ((key, .scalar .null) :: rest) stop) = .ok v
      ↔ f ∉ (form.known rest).keys ∧ form.readRecord room (.object rest stop) = .ok v := by
  rw [readRecord_known_iff text is, readRecord_object_iff]
  constructor
  · rintro ⟨closed, less, enough, new, accepted, here, there⟩
    refine ⟨new, closed, less, enough, accepted, fun g => ?_⟩
    by_cases same : g = f
    · subst same
      rw [List.dlookup_eq_none.mpr new]
      exact (null less _).mp here
    · exact there g same
  · rintro ⟨new, closed, less, enough, accepted, obtains⟩
    refine ⟨closed, less, enough, new, accepted, (null less _).mpr ?_, fun g _ => obtains g⟩
    have here := obtains f
    rwa [List.dlookup_eq_none.mpr new] at here

theorem not_mem_keys_known (absent : ∀ m ∈ members, m.1.text ≠ .ok (form.key f)) :
    f ∉ (form.known members).keys := by
  intro present
  obtain ⟨node, member⟩ := List.mem_keys.mp present
  obtain ⟨m, inMembers, found⟩ := List.mem_filterMap.mp member
  obtain ⟨g, field, same⟩ := Option.map_eq_some_iff.mp found
  cases same
  refine absent m inMembers ?_
  cases text : m.1.text with
  | error => simp [fieldOf?, text, Except.toOption] at field
  | ok name =>
    have is : form.field? name = some f := (fieldOf?_eq text).symm.trans field
    have key : form.key f = name := by simpa using List.find?_some is
    rw [key]

end

/-! ## Lists -/

theorem readItemsFrom_replace {stop : Option ListStop} {index : Nat} {given all : Given form}
    {fields : List form.Field} {before after : List Node} {node other : Node} {f : form.Field}
    (place : fields[before.length]? = some f)
    (keeps : ∀ a, form.read f room node = .ok a → form.read f room other = .ok a)
    (read : readItemsFrom room stop index given fields (before ++ node :: after) = .ok all) :
    readItemsFrom room stop index given fields (before ++ other :: after) = .ok all := by
  induction before generalizing index given fields with
  | nil =>
    cases fields with
    | nil => contradiction
    | cons g fields =>
      cases place
      obtain ⟨a, here, later⟩ := bind_eq_ok_iff.mp read
      exact bind_eq_ok_iff.mpr ⟨a, keeps a here, later⟩
  | cons first before ih =>
    cases fields with
    | nil => contradiction
    | cons g fields =>
      obtain ⟨a, here, later⟩ := bind_eq_ok_iff.mp read
      exact bind_eq_ok_iff.mpr ⟨a, here, ih place later⟩

/-! ## Records -/

section

variable {optional : List form.Field} {within : form.Field → Node → Node → Prop}
  (distinct : form.KeysDistinct)
  (null : ∀ f ∈ optional, ∀ less a, form.read f less (.scalar .null) = .ok a ↔ form.absent f = some a)

include distinct null

theorem readRecord_rearranged {members others : List (RawString × Node)} {v : Filled form}
    (changed : form.Rearranged optional members others)
    (read : form.readRecord room (.object members none) = .ok v) :
    form.readRecord room (.object others none) = .ok v := by
  cases changed with
  | reordered perm => exact readRecord_perm perm read
  | @unknownAdded before after key name value text named unknown spelt =>
    have unknown : form.field? name = none := by
      refine List.find?_eq_none.mpr fun f member same => unknown ?_
      exact List.mem_map.mpr ⟨f, member, by simpa using same⟩
    exact readRecord_perm List.perm_middle.symm
      (readRecord_unknown named unknown (value.skip_of_speltBy spelt) read)
  | @nullAdded before after key f member named absent =>
    have front := (readRecord_null_iff named (field?_key distinct f) (null f member)).mpr
      ⟨not_mem_keys_known absent, read⟩
    exact readRecord_perm List.perm_middle.symm front
  | @nullRemoved before after key f member named =>
    have front := readRecord_perm List.perm_middle read
    exact ((readRecord_null_iff named (field?_key distinct f) (null f member)).mp front).2

/-- A record keeps its contents if each field does. -/
theorem keeps (each : ∀ f, Keeps (form.read f) (within f)) :
    Keeps form.readRecord (form.Changed optional within) := by
  intro room node other v changed read
  cases changed with
  | members changed => exact readRecord_rearranged distinct null changed read
  | @member before after key f node other named inside =>
    -- In front of the others the member is read first, before and after the change.
    have front := readRecord_perm List.perm_middle read
    refine readRecord_perm List.perm_middle.symm ?_
    exact readRecord_replace named (field?_key distinct f)
      (fun less here => each f less node other _ inside here) front
  | @item before after f node other place inside =>
    simp only [readRecord, enter_eq_ok_iff, bind_eq_ok_iff] at read ⊢
    obtain ⟨less, rfl, given, items, filled⟩ := read
    have again := readItemsFrom_replace place (fun a => each f less node other a inside) items
    exact ⟨less, rfl, given, again, filled⟩

end

end RecordForm

end ConnectorSchema.Json
