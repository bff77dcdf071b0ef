import ConnectorSchema.Proofs.RoundTrip
import ConnectorSchema.Proofs.ValueText
import ConnectorSchema.Schema.OfDocument

/-!
Where the fields of a record are written: behind their keys in an object, at their places in a list.
What a record was read as it has from there (`RecordForm.read_of_writtenAt`), and so has the input of
an entry of a document (`Document.read_of_inputAt`).
-/

namespace ConnectorSchema

open Json

namespace Json.RecordForm

variable {form : RecordForm} {room : Nat}

variable (form) in
/-- A field of a record is written at a node. -/
inductive WrittenAt (f : form.Field) : Node → Node → Prop
  | member {members : List (RawString × Node)} {stop : Option ObjectStop} {key : RawString}
      {node : Node} : (key, node) ∈ members → key.text = .ok (form.key f) →
      WrittenAt f (.object members stop) node
  | item {items : List Node} {stop : Option ListStop} {i : Nat} {node : Node} :
      form.fields[i]? = some f → items[i]? = some node → WrittenAt f (.list items stop) node

/-- The elements of a list are read as the fields at the same places. Each field is found once, so what
was known of the others before stays as it was. -/
theorem find?_of_readItemsFrom {stop : Option ListStop} {index : Nat} {given all : Given form}
    {fields : List form.Field} {items : List Node} (distinct : fields.Nodup)
    (read : readItemsFrom room stop index given fields items = .ok all) :
    (∀ f, f ∉ fields → find? f all = find? f given)
      ∧ ∀ (i : Nat) (f : form.Field) (node : Node), fields[i]? = some f → items[i]? = some node →
        ∃ content, form.read f room node = .ok content ∧ find? f all = some content := by
  induction fields generalizing index given items with
  | nil =>
    cases items with
    | nil =>
      obtain ⟨_, _, same⟩ := bind_eq_ok_iff.mp read
      cases same
      exact ⟨fun _ _ => rfl, fun i f node place => by simp at place⟩
    | cons => contradiction
  | cons g fields ih =>
    obtain ⟨once, later⟩ := List.nodup_cons.mp distinct
    cases items with
    | nil =>
      unfold readItemsFrom at read
      split at read
      · contradiction
      · split at read
        · obtain ⟨others, _⟩ := ih later read
          refine ⟨fun f new => others f fun member => new (List.mem_cons_of_mem _ member), ?_⟩
          exact fun i f node _ written => by simp at written
        · contradiction
    | cons first rest =>
      obtain ⟨here, readHere, readRest⟩ := bind_eq_ok_iff.mp read
      obtain ⟨others, places⟩ := ih later readRest
      constructor
      · intro f new
        obtain ⟨different, notLater⟩ := not_or.mp (mt List.mem_cons.mpr new)
        rw [others f notLater, find?_cons_ne different]
      · intro i f node place written
        cases i with
        | zero =>
          cases place
          cases written
          exact ⟨here, readHere, by rw [others g once]; simp [find?]⟩
        | succ i => exact places i f node place written

/-- A field has what was read where it is written. -/
theorem read_of_writtenAt (distinct : form.KeysDistinct) {record node : Node} {v : Filled form}
    {f : form.Field} (read : form.readRecord room record = .ok v)
    (written : form.WrittenAt f record node) :
    ∃ less, room = less + 1 ∧ form.read f less node = .ok (v f) := by
  cases written with
  | @member members stop key node member text =>
    obtain ⟨_, less, enough, accepted, obtains⟩ := readRecord_object_iff.mp read
    have is : form.fieldOf? key = some f := (fieldOf?_eq text).trans (field?_key distinct f)
    have known : ⟨f, node⟩ ∈ form.known members :=
      List.mem_filterMap.mpr ⟨(key, node), member, by rw [is]; rfl⟩
    have here := obtains f
    rw [(List.mem_dlookup_iff accepted.once).mpr known] at here
    exact ⟨less, enough, here⟩
  | @item items stop i node place written =>
    obtain ⟨less, enough, inside⟩ := enter_eq_ok_iff.mp read
    obtain ⟨given, readItems, filled⟩ := bind_eq_ok_iff.mp inside
    have once : form.fields.Nodup := List.Nodup.of_map _ distinct
    obtain ⟨content, readHere, found⟩ := (find?_of_readItemsFrom once readItems).2 i f node place written
    have same := fill_eq_ok_iff.mp filled f
    rw [content?, found] at same
    exact ⟨less, enough, by rw [readHere, ← Option.some.inj same]⟩

end Json.RecordForm

namespace Document

/-- The input of the entry number `i` of a document is written at this node. -/
def InputAt (text : String) (i : Nat) (input : Node) : Prop :=
  ∃ items stop entry, form.WrittenAt .entries (scan text).root (.list items stop)
    ∧ items[i]? = some entry ∧ Entry.form.WrittenAt .input entry input

/-- The input of an entry has each of its fields from where the text has it. -/
theorem read_of_inputAt {text : String} {d : Document} {i : Nat} {e : Entry} {input : Node}
    (found : ofJson text = .ok d) (place : d.entries[i]? = some e) (written : InputAt text i input) :
    ∃ v, e.input = Input.ofFields v ∧ ∀ f node, Input.form.WrittenAt f input node →
      ∃ room ≤ nestingLimit, Input.Field.read f room node = .ok (v f) := by
  obtain ⟨items, stop, entry, atEntries, atPlace, atInput⟩ := written
  obtain ⟨rooted, _⟩ := read_eq_ok_iff.mp found
  obtain ⟨ofDocument, readDocument, rfl⟩ := map_eq_ok_iff.mp rooted
  obtain ⟨room, limit, readEntries⟩ := RecordForm.read_of_writtenAt keysDistinct readDocument atEntries
  have readEntries : readList Entry.reader room (.list items stop) = .ok (ofDocument .entries) :=
    readEntries
  obtain ⟨lessEntries, _, enough, same, parts⟩ := readList_eq_ok_iff.mp readEntries
  cases same
  obtain ⟨inItems, rfl⟩ := List.getElem?_eq_some_iff.mp atPlace
  obtain ⟨inEntries, rfl⟩ := List.getElem?_eq_some_iff.mp place
  have readEntry := parts.get inItems inEntries
  obtain ⟨ofEntry, readEntry, entryEq⟩ := map_eq_ok_iff.mp readEntry
  obtain ⟨roomEntry, enoughEntry, readInput⟩ :=
    RecordForm.read_of_writtenAt Entry.keysDistinct readEntry atInput
  obtain ⟨v, readInput, inputEq⟩ := map_eq_ok_iff.mp readInput
  refine ⟨v, ?_, fun f node atField => ?_⟩
  · rw [inputEq]
    exact congrArg Entry.input entryEq.symm
  · obtain ⟨less, enoughInput, readField⟩ :=
      RecordForm.read_of_writtenAt Input.keysDistinct readInput atField
    exact ⟨less, by omega, readField⟩

section

variable {text : String} {d : Document} {i : Nat} {e : Entry} {input node : Node}
  (found : ofJson text = .ok d) (place : d.entries[i]? = some e) (written : InputAt text i input)

include found place written

/-- The default of an entry is the literal for the value that stands where it is written. -/
theorem default_of_inputAt (atDefault : Input.form.WrittenAt .defaultValue input node)
    (given : node ≠ .scalar .null) :
    ∃ v l, readValue nestingLimit node = .ok v ∧ Literal.ofValue? v = some l
      ∧ e.input.defaultValue = some l := by
  obtain ⟨v, fields, readField⟩ := read_of_inputAt found place written
  obtain ⟨room, enough, readDefault⟩ := readField _ _ atDefault
  have readDefault : readOptional (readAlternative "DefaultValue" Literal.ofValue?) room node
    = .ok (v .defaultValue) := readDefault
  rcases readOptional_eq_ok_iff.mp readDefault with ⟨absent, _⟩ | ⟨_, l, readLiteral, same⟩
  · exact absurd absent given
  · obtain ⟨value, read, picked⟩ := readAlternative_eq_ok_iff.mp readLiteral
    exact ⟨value, l, readValue_of_le node enough read, picked, by rw [fields]; exact same⟩

end

/-- A document with one entry, whose input has these members. -/
def single (input : List (String × Value)) : Value :=
  .object [("display_name", .string "S"), ("config", .list [.object [("name", .string "n"),
    ("user_defined", .boolean true), ("value", .object input)]])]

theorem writtenAt_node {form : RecordForm} {f : form.Field} {key : String} {value : Value}
    {members : List (String × Value)} (member : (key, value) ∈ members) (named : key = form.key f) :
    form.WrittenAt f (Value.object members).node value.node := by
  have listed : (RawString.ofString key, value.node) ∈ memberNodes members := by
    rw [memberNodes_eq_map]
    exact List.mem_map_of_mem (f := fun m : String × Value => (RawString.ofString m.1, m.2.node)) member
  exact .member listed (by rw [RawString.text_ofString, named])

theorem inputAt_single (input : List (String × Value)) :
    InputAt (single input).text 0 (Value.object input).node := by
  rw [InputAt, scan_text]
  exact ⟨_, _, _, writtenAt_node (List.mem_cons_of_mem _ List.mem_cons_self) rfl, rfl,
    writtenAt_node (List.mem_cons_of_mem _ (List.mem_cons_of_mem _ List.mem_cons_self)) rfl⟩

/-- That a document of this form has a model is a matter of evaluation. -/
theorem exists_model_single {input : List (String × Value)} {control : Control}
    (evaluates : ((ofJson (single input).text).toOption.map fun d =>
        (d.entries.map fun e => (e.userDefined, e.input.control),
          (Model.ofDocument .source "pg" d).toOption.isSome)) = some ([(true, control)], true)) :
    ∃ d m e, ofJson (single input).text = .ok d ∧ Model.ofDocument .source "pg" d = .ok m
      ∧ d.entries[0]? = some e ∧ e ∈ d.keptEntries .source ∧ e.input.control = control := by
  cases found : ofJson (single input).text with
  | error => simp [found, Except.toOption] at evaluates
  | ok d =>
    cases model : Model.ofDocument .source "pg" d with
    | error => simp [found, model, Except.toOption] at evaluates
    | ok m =>
      simp only [found, Except.toOption, Option.map_some, Option.some_inj, Prod.mk.injEq] at evaluates
      obtain ⟨e, entries, supplied⟩ := List.map_eq_singleton_iff.mp evaluates.1
      obtain ⟨supplied, same⟩ := Prod.mk.inj supplied
      refine ⟨d, m, e, rfl, model, by rw [entries]; rfl, ?_, same⟩
      rw [keptEntries, userEntries, entries]
      simp [supplied, EntityKind.keeps]

end Document

end ConnectorSchema
