import Mathlib.Data.List.Forall2
import ConnectorSchema.Proofs.AsciiCase
import ConnectorSchema.Proofs.EntryAttribute
import ConnectorSchema.Schema.OfDocument

/-!
Which documents have a model. Entries are admitted one after the other; `foldlM_addEntry_cases` says
what any number of them adds to attributes that are there already, and where it stops. What comes of a
document follows (`Model.ofDocument_decides`).
-/

namespace ConnectorSchema

/-- The text begins with a letter from A to Z, capital or small. -/
def BeginsWithLetter (s : String) : Prop :=
  ∃ c rest, s.toList = c :: rest ∧ ('A' ≤ c ∧ c ≤ 'Z' ∨ 'a' ≤ c ∧ c ≤ 'z')

theorem startsWithLetter_iff {s : String} : startsWithLetter s ↔ BeginsWithLetter s := by
  rw [startsWithLetter, BeginsWithLetter]
  cases s.toList with
  | nil => simp
  | cons c rest => simp [isAlpha_iff, isUpper_iff, isLower_iff]

instance (s : String) : Decidable (BeginsWithLetter s) := decidable_of_iff _ startsWithLetter_iff

/-- What entries must satisfy to be admitted behind attributes with these names and fields. -/
structure Admissible (names fields : List String) (entries : List Entry) : Prop where
  converts : ∀ e ∈ entries, e.Converts
  distinctNames : (entries.map (·.attributeName)).Nodup
  newNames : ∀ e ∈ entries, e.attributeName ∉ names
  letters : ∀ e ∈ entries, BeginsWithLetter e.fieldName
  distinctFields : (entries.map (·.fieldName)).Nodup
  newFields : ∀ e ∈ entries, e.fieldName ∉ fields

/-- The first of the checks that an entry fails behind attributes with these names and fields. The
checks on the entry alone come first, then its name, the first letter of its field, and its field. -/
inductive Entry.Refused (names fields : List String) (e : Entry) : Violation → Prop
  | alone {v} : e.Unconvertible v → Refused names fields e v
  | nameTaken : e.Converts → e.attributeName ∈ names →
      Refused names fields e (.attributeNameTaken e.attributeName)
  | noLetter : e.Converts → e.attributeName ∉ names → ¬ BeginsWithLetter e.fieldName →
      Refused names fields e (.fieldNameWithoutLetter e.fieldName)
  | fieldTaken : e.Converts → e.attributeName ∉ names → BeginsWithLetter e.fieldName →
      e.fieldName ∈ fields → Refused names fields e (.fieldNameTaken e.fieldName)

/-- An entry that is admitted adds its attribute at the end. Any other one stops everything, and the
problem names it and the first check it fails. -/
theorem addEntry_cases (attributes : List Attribute) (e : Entry) :
    (e.Converts ∧ ∃ a, Attribute.ofEntry e = .ok a
        ∧ addEntry attributes e = .ok (attributes ++ [a])
        ∧ e.attributeName ∉ attributes.map (·.name) ∧ BeginsWithLetter e.fieldName
        ∧ e.fieldName ∉ attributes.map (·.fieldName))
      ∨ ∃ v, e.Refused (attributes.map (·.name)) (attributes.map (·.fieldName)) v
        ∧ addEntry attributes e = .error (.entry e.name v) := by
  unfold addEntry
  rcases Attribute.ofEntry_cases e with ⟨converts, a, found⟩ | ⟨v, fails, failed⟩
  case inr => exact Or.inr ⟨v, .alone fails, by rw [failed]; rfl⟩
  rw [found]
  have name := Attribute.name_of_ofEntry found
  have field := Attribute.fieldName_of_ofEntry found
  simp only [bind, Except.bind, name, field, List.any_eq_true, decide_eq_true_eq]
  by_cases taken : e.attributeName ∈ attributes.map (·.name)
  · refine Or.inr ⟨_, .nameTaken converts taken, if_pos ?_⟩
    simpa using taken
  rw [if_neg (by simpa using taken)]
  by_cases letter : BeginsWithLetter e.fieldName
  case neg =>
    refine Or.inr ⟨_, .noLetter converts taken letter, if_pos ?_⟩
    simpa [← startsWithLetter_iff] using letter
  rw [if_neg (by simpa [← startsWithLetter_iff] using letter)]
  by_cases repeated : e.fieldName ∈ attributes.map (·.fieldName)
  · refine Or.inr ⟨_, .fieldTaken converts taken letter repeated, if_pos ?_⟩
    simpa using repeated
  · refine Or.inl ⟨converts, a, rfl, if_neg ?_, taken, letter, repeated⟩
    simpa using repeated

theorem Admissible.nil (names fields : List String) : Admissible names fields [] := by
  constructor <;> simp

theorem Admissible.cons {names fields : List String} {e : Entry} {rest : List Entry}
    (converts : e.Converts) (newName : e.attributeName ∉ names)
    (letter : BeginsWithLetter e.fieldName) (newField : e.fieldName ∉ fields)
    (later : Admissible (names ++ [e.attributeName]) (fields ++ [e.fieldName]) rest) :
    Admissible names fields (e :: rest) where
  converts := List.forall_mem_cons.mpr ⟨converts, later.converts⟩
  distinctNames := by
    refine List.nodup_cons.mpr ⟨fun member => ?_, later.distinctNames⟩
    obtain ⟨other, inRest, same⟩ := List.mem_map.mp member
    exact later.newNames other inRest (by simp [same])
  newNames := List.forall_mem_cons.mpr ⟨newName, fun other inRest member =>
    later.newNames other inRest (List.mem_append_left _ member)⟩
  letters := List.forall_mem_cons.mpr ⟨letter, later.letters⟩
  distinctFields := by
    refine List.nodup_cons.mpr ⟨fun member => ?_, later.distinctFields⟩
    obtain ⟨other, inRest, same⟩ := List.mem_map.mp member
    exact later.newFields other inRest (by simp [same])
  newFields := List.forall_mem_cons.mpr ⟨newField, fun other inRest member =>
    later.newFields other inRest (List.mem_append_left _ member)⟩

/-- What comes behind the first of admissible entries is admissible behind its attribute. -/
theorem Admissible.tail {names fields : List String} {e : Entry} {rest : List Entry}
    (all : Admissible names fields (e :: rest)) :
    Admissible (names ++ [e.attributeName]) (fields ++ [e.fieldName]) rest := by
  have names := List.nodup_cons.mp all.distinctNames
  have fields := List.nodup_cons.mp all.distinctFields
  refine ⟨fun other inRest => all.converts other (List.mem_cons_of_mem _ inRest), names.2,
    fun other inRest member => ?_,
    fun other inRest => all.letters other (List.mem_cons_of_mem _ inRest), fields.2,
    fun other inRest member => ?_⟩
  · rcases List.mem_append.mp member with old | new
    · exact all.newNames other (List.mem_cons_of_mem _ inRest) old
    · rw [List.mem_singleton] at new
      exact names.1 (List.mem_map.mpr ⟨other, inRest, new⟩)
  · rcases List.mem_append.mp member with old | new
    · exact all.newFields other (List.mem_cons_of_mem _ inRest) old
    · rw [List.mem_singleton] at new
      exact fields.1 (List.mem_map.mpr ⟨other, inRest, new⟩)

theorem Admissible.drop {names fields : List String} {before after : List Entry}
    (all : Admissible names fields (before ++ after)) :
    Admissible (names ++ before.map (·.attributeName)) (fields ++ before.map (·.fieldName))
      after := by
  induction before generalizing names fields with
  | nil => simpa using all
  | cons e before ih => simpa using ih all.tail

/-- A refused entry is not admissible behind the same attributes, alone or with others after it. -/
theorem Entry.Refused.not_admissible {names fields : List String} {e : Entry} {v : Violation}
    (refused : e.Refused names fields v) (after : List Entry) :
    ¬ Admissible names fields (e :: after) := by
  intro all
  cases refused with
  | alone fails => exact fails.not_converts (all.converts e List.mem_cons_self)
  | nameTaken _ taken => exact all.newNames e List.mem_cons_self taken
  | noLetter _ _ digit => exact digit (all.letters e List.mem_cons_self)
  | fieldTaken _ _ _ taken => exact all.newFields e List.mem_cons_self taken

/-- Where admitting entries stops: at the first one that is refused behind those before it, and
nowhere when all of them are admissible. The induction is on the entries, and what carries it is that
each admitted entry adds its own two names and nothing else to those taken. -/
theorem foldlM_addEntry_cases (attributes : List Attribute) (entries : List Entry) :
    (Admissible (attributes.map (·.name)) (attributes.map (·.fieldName)) entries
        ∧ ∃ more, entries.map Attribute.ofEntry = more.map .ok
          ∧ entries.foldlM addEntry attributes = .ok (attributes ++ more))
      ∨ ∃ before e after v, entries = before ++ e :: after
        ∧ Admissible (attributes.map (·.name)) (attributes.map (·.fieldName)) before
        ∧ e.Refused (attributes.map (·.name) ++ before.map (·.attributeName))
            (attributes.map (·.fieldName) ++ before.map (·.fieldName)) v
        ∧ entries.foldlM addEntry attributes = .error (.entry e.name v) := by
  induction entries generalizing attributes with
  | nil => exact Or.inl ⟨.nil _ _, [], rfl, by simp [pure, Except.pure]⟩
  | cons e rest ih =>
    rcases addEntry_cases attributes e with
      ⟨converts, a, found, added, newName, letter, newField⟩ | ⟨v, refused, failed⟩
    case inr =>
      refine Or.inr ⟨[], e, rest, v, rfl, .nil _ _, by simpa using refused, ?_⟩
      rw [List.foldlM_cons, failed]
      rfl
    have step : (e :: rest).foldlM addEntry attributes
        = rest.foldlM addEntry (attributes ++ [a]) := by
      rw [List.foldlM_cons, added]
      rfl
    have name := Attribute.name_of_ofEntry found
    have field := Attribute.fieldName_of_ofEntry found
    specialize ih (attributes ++ [a])
    simp only [List.map_append, List.map_cons, List.map_nil, name, field] at ih
    rw [step]
    rcases ih with ⟨later, more, attributesOf, result⟩ |
      ⟨before, other, after, v, split, earlier, refused, failed⟩
    · refine Or.inl ⟨.cons converts newName letter newField later, a :: more,
        by rw [List.map_cons, List.map_cons, found, attributesOf], ?_⟩
      simpa using result
    · refine Or.inr ⟨e :: before, other, after, v, by rw [split]; rfl,
        .cons converts newName letter newField earlier, ?_, failed⟩
      simpa using refused

theorem Attribute.check_eq_ok {a : Attribute} (keeps : a.violation? = none) : a.check = .ok () := by
  rw [check, keeps]

theorem forM_check_eq_ok {attributes : List Attribute}
    (keep : ∀ a ∈ attributes, a.violation? = none) : attributes.forM Attribute.check = .ok () := by
  induction attributes with
  | nil => rfl
  | cons a rest ih =>
    change (a.check >>= fun _ => rest.forM Attribute.check) = _
    rw [Attribute.check_eq_ok (keep a List.mem_cons_self)]
    exact ih fun other inRest => keep other (List.mem_cons_of_mem _ inRest)

theorem EntityKind.violation?_syntheticAttributes (kind : EntityKind) :
    ∀ a ∈ kind.syntheticAttributes, a.violation? = none := by
  cases kind <;> simp [syntheticAttributes, Attribute.violation?, Attribute.synthetic]

/-- The names that are taken before the first entry. -/
def EntityKind.syntheticNames : EntityKind → List String
  | .source | .destination => ["id", "name", "connector"]
  | .transform => ["id", "name", "transform_type"]

/-- The fields that are taken before the first entry. -/
def EntityKind.syntheticFields : EntityKind → List String
  | .source | .destination => ["ID", "Name", "Connector"]
  | .transform => ["ID", "Name", "TransformType"]

theorem EntityKind.syntheticNames_eq (kind : EntityKind) : kind.syntheticNames
    = ["id", "name", if kind = .transform then "transform_type" else "connector"] := by
  cases kind <;> rfl

theorem EntityKind.syntheticFields_eq (kind : EntityKind) : kind.syntheticFields
    = ["ID", "Name", if kind = .transform then "TransformType" else "Connector"] := by
  cases kind <;> rfl

theorem EntityKind.map_name_syntheticAttributes (kind : EntityKind) :
    kind.syntheticAttributes.map (·.name) = kind.syntheticNames := by
  cases kind <;> rfl

theorem EntityKind.map_fieldName_syntheticAttributes (kind : EntityKind) :
    kind.syntheticAttributes.map (·.fieldName) = kind.syntheticFields := by
  cases kind <;> decide

theorem attributesOf_cases (kind : EntityKind) (entries : List Entry) :
    (Admissible kind.syntheticNames kind.syntheticFields entries
        ∧ ∃ more, entries.map Attribute.ofEntry = more.map .ok
          ∧ attributesOf kind entries = .ok (kind.syntheticAttributes ++ more))
      ∨ ∃ before e after v, entries = before ++ e :: after
        ∧ Admissible kind.syntheticNames kind.syntheticFields before
        ∧ e.Refused (kind.syntheticNames ++ before.map (·.attributeName))
            (kind.syntheticFields ++ before.map (·.fieldName)) v
        ∧ attributesOf kind entries = .error (.entry e.name v) := by
  unfold attributesOf
  rw [← kind.map_name_syntheticAttributes, ← kind.map_fieldName_syntheticAttributes]
  rcases foldlM_addEntry_cases kind.syntheticAttributes entries with
    ⟨admissible, more, found, result⟩ | ⟨before, e, after, v, split, earlier, refused, failed⟩
  · refine Or.inl ⟨admissible, more, found, ?_⟩
    have checked : (kind.syntheticAttributes ++ more).forM Attribute.check = .ok () := by
      refine forM_check_eq_ok fun a member => ?_
      rcases List.mem_append.mp member with synthetic | inMore
      · exact kind.violation?_syntheticAttributes a synthetic
      · have member : .ok a ∈ entries.map Attribute.ofEntry :=
          found ▸ List.mem_map_of_mem inMore
        obtain ⟨e, _, ofEntry⟩ := List.mem_map.mp member
        exact Attribute.violation?_ofEntry ofEntry
    rw [result]
    simp only [bind, Except.bind, checked]
    rfl
  · refine Or.inr ⟨before, e, after, v, split, earlier, refused, ?_⟩
    rw [failed]
    rfl

/-- The model of a document with these attributes. -/
def Document.model (d : Document) (kind : EntityKind) (code : String)
    (attributes : List Attribute) : Model where
  kind := kind
  code := code
  displayName := d.displayName
  header := Header.of kind code
  description := d.describe kind
  markdown := d.describe kind
  attributes := attributes
  capabilities := Capabilities.ofAttributes attributes

/-- A document has the model of its attributes, or the problem of the first entry refused. -/
theorem Model.ofDocument_cases (kind : EntityKind) (code : String) (d : Document) :
    (Admissible kind.syntheticNames kind.syntheticFields (d.keptEntries kind)
        ∧ ∃ more, (d.keptEntries kind).map Attribute.ofEntry = more.map .ok
          ∧ Model.ofDocument kind code d
            = .ok (d.model kind code (kind.syntheticAttributes ++ more)))
      ∨ ∃ before e after v, d.keptEntries kind = before ++ e :: after
        ∧ Admissible kind.syntheticNames kind.syntheticFields before
        ∧ e.Refused (kind.syntheticNames ++ before.map (·.attributeName))
            (kind.syntheticFields ++ before.map (·.fieldName)) v
        ∧ Model.ofDocument kind code d = .error (.entry e.name v) := by
  unfold ofDocument
  rcases attributesOf_cases kind (d.keptEntries kind) with
    ⟨admissible, more, attributes, result⟩ |
    ⟨before, e, after, v, split, earlier, refused, failed⟩
  · rw [result]
    exact Or.inl ⟨admissible, more, attributes, rfl⟩
  · rw [failed]
    exact Or.inr ⟨before, e, after, v, split, earlier, refused, rfl⟩

/-- What a model is made of. -/
theorem Model.of_accepted {kind : EntityKind} {code : String} {d : Document} {m : Model}
    (accepted : Model.ofDocument kind code d = .ok m) :
    Admissible kind.syntheticNames kind.syntheticFields (d.keptEntries kind)
      ∧ ∃ more, (d.keptEntries kind).map Attribute.ofEntry = more.map .ok
        ∧ m = d.model kind code (kind.syntheticAttributes ++ more) := by
  rcases Model.ofDocument_cases kind code d with ⟨all, more, found, model⟩ |
    ⟨_, _, _, _, _, _, _, problem⟩
  · cases model.symm.trans accepted
    exact ⟨all, more, found, rfl⟩
  · cases problem.symm.trans accepted

/-- Admissible entries are all there is to a document with a model. -/
theorem Model.ofDocument_of_admissible {kind : EntityKind} (code : String) {d : Document}
    (all : Admissible kind.syntheticNames kind.syntheticFields (d.keptEntries kind)) :
    ∃ more, (d.keptEntries kind).map Attribute.ofEntry = more.map .ok
      ∧ Model.ofDocument kind code d
        = .ok (d.model kind code (kind.syntheticAttributes ++ more)) := by
  rcases Model.ofDocument_cases kind code d with ⟨_, accepted⟩ |
    ⟨before, e, after, v, split, _, refused, _⟩
  · exact accepted
  · rw [split] at all
    exact absurd all.drop (refused.not_admissible after)

/-- An attribute that is there whatever the document says: a text, which has to be given or is left to
the backend. -/
def Attribute.preset (fieldName name : String) (given : Bool) (description : String) : Attribute where
  fieldName := fieldName
  name := name
  apiName := ""
  kind := .string
  presence := if given then .required else .computed
  sensitive := false
  description := description
  markdown := description
  default? := none
  validator? := none
  stateForUnknown := !given
  requiresReplace := false

theorem EntityKind.syntheticAttributes_eq (kind : EntityKind) : kind.syntheticAttributes
    = [.preset "ID" "id" false ("Unique identifier for the " ++ kind.name),
      .preset "Name" "name" true ("Name of the " ++ kind.name),
      if kind = .transform then
        .preset "TransformType" "transform_type" false ("Type of the " ++ kind.name)
      else .preset "Connector" "connector" false ("Connector type of the " ++ kind.name)] := by
  cases kind <;> decide +kernel

theorem Document.keptEntries_eq (d : Document) (kind : EntityKind) : d.keptEntries kind
    = d.entries.filter fun e => e.userDefined ∧ (kind = .transform → e.name ≠ "transforms.name") := by
  rw [keptEntries, userEntries, List.filter_filter]
  refine List.filter_congr fun e _ => ?_
  cases e.userDefined <;> cases kind <;> simp [EntityKind.keeps, transformNameEntry, beq_eq_decide]

theorem map_eq_of_forall₂ {α β γ : Type} {f : α → γ} {g : β → γ} {as : List α} {bs : List β}
    (each : List.Forall₂ (fun a b => f a = g b) as bs) : as.map f = bs.map g := by
  rw [← List.forall₂_eq_eq_eq, List.forall₂_map_left_iff, List.forall₂_map_right_iff]
  exact each

theorem forall₂_of_map_ofEntry {entries : List Entry} {more : List Attribute}
    (found : entries.map Attribute.ofEntry = more.map .ok) :
    List.Forall₂ (fun a e => Attribute.ofEntry e = .ok a) more entries := by
  have same : List.Forall₂ (· = ·) (more.map Except.ok) (entries.map Attribute.ofEntry) :=
    List.forall₂_eq_eq_eq ▸ found.symm
  rw [List.forall₂_map_left_iff, List.forall₂_map_right_iff] at same
  exact same.imp fun _ _ => Eq.symm

/-- A document has a model exactly when the entries of the user, in transforms all but the one for their
name, convert each on its own and have names and fields that are new, among themselves and against the
three that are always there. The attributes are these three and one for each of the entries, in order.
Otherwise the problem is the first check that fails for the first entry that is refused, and it names
that entry. -/
theorem Model.ofDocument_decides (kind : EntityKind) (code : String) (d : Document) :
    let kept := d.entries.filter fun e =>
      e.userDefined ∧ (kind = .transform → e.name ≠ "transforms.name")
    let names := ["id", "name", if kind = .transform then "transform_type" else "connector"]
    let fields := ["ID", "Name", if kind = .transform then "TransformType" else "Connector"]
    ((∃ m, Model.ofDocument kind code d = .ok m) ↔ Admissible names fields kept)
      ∧ (∀ m, Model.ofDocument kind code d = .ok m → ∃ more,
        m.attributes
          = [.preset "ID" "id" false ("Unique identifier for the " ++ kind.name),
            .preset "Name" "name" true ("Name of the " ++ kind.name),
            if kind = .transform then
              .preset "TransformType" "transform_type" false ("Type of the " ++ kind.name)
            else .preset "Connector" "connector" false ("Connector type of the " ++ kind.name)]
            ++ more
          ∧ List.Forall₂ (fun a e => Attribute.ofEntry e = .ok a ∧ a.apiName = e.name
              ∧ a.name = Naming.attributeName e.name
              ∧ a.fieldName = Naming.pascal (Naming.attributeName e.name)) more kept)
      ∧ ∀ p, Model.ofDocument kind code d = .error p →
        ∃ before e after v, kept = before ++ e :: after
          ∧ Admissible names fields before
          ∧ e.Refused (names ++ before.map (Naming.attributeName ·.name))
              (fields ++ before.map fun e => Naming.pascal (Naming.attributeName e.name)) v
          ∧ p = .entry e.name v := by
  intro kept names fields
  have decided := Model.ofDocument_cases kind code d
  rw [d.keptEntries_eq, kind.syntheticNames_eq, kind.syntheticFields_eq] at decided
  rcases decided with ⟨admissible, more, attributes, model⟩ |
    ⟨before, e, after, v, split, earlier, refused, problem⟩
  · refine ⟨⟨fun _ => admissible, fun _ => ⟨_, model⟩⟩, fun m found => ?_, fun p failed => ?_⟩
    · cases model.symm.trans found
      rw [← kind.syntheticAttributes_eq]
      refine ⟨more, rfl, (forall₂_of_map_ofEntry attributes).imp fun a e ofEntry => ?_⟩
      obtain ⟨_, _, _, _, _, rfl⟩ := Attribute.ofEntry_ok_iff.mp ofEntry
      exact ⟨ofEntry, rfl, rfl, rfl⟩
    · cases model.symm.trans failed
  · refine ⟨⟨fun ⟨m, found⟩ => ?_, fun all => ?_⟩, fun m found => ?_, fun p failed => ?_⟩
    · cases problem.symm.trans found
    · have split : kept = before ++ e :: after := split
      rw [split] at all
      exact absurd all.drop (refused.not_admissible after)
    · cases problem.symm.trans found
    · cases problem.symm.trans failed
      exact ⟨before, e, after, v, split, earlier, refused, rfl⟩

/-- A user's entry with a control and nothing else. -/
def Entry.ofControl (name : String) (control : Control) : Entry :=
  ⟨name, true, none, none, none, false, false, none, none, .ofControl control⟩

/-- A document with a display name and these entries. -/
def Document.ofEntries (displayName : String) (entries : List Entry) : Document :=
  ⟨displayName, none, none, none, none, entries⟩

/-- In a transform neither an entry that is not the user's nor the one for its name counts, so their
names do not clash with others. Two spellings of one name do. -/
theorem Model.ofDocument_decides_transform :
    let hidden : Entry := { Entry.ofControl "transform_type" .string with userDefined := false }
    let name := Entry.ofControl "transforms.name" .string
    let mode := Entry.ofControl "sslMode" .toggle
    let again := Entry.ofControl "ssl-mode" .string
    let document := Document.ofEntries "Map"
    (∃ m, Model.ofDocument .transform "map" (document [hidden, mode, name]) = .ok m
        ∧ m.attributes.map (fun a => (a.fieldName, a.name, a.apiName))
          = [("ID", "id", ""), ("Name", "name", ""), ("TransformType", "transform_type", ""),
            ("SSLMode", "ssl_mode", "sslMode")])
      ∧ (¬ ∃ m, Model.ofDocument .transform "map" (document [hidden, mode, name, again]) = .ok m)
      ∧ ∃ m, Model.ofDocument .source "map" (document [mode, name]) = .ok m := by
  intro hidden name mode again document
  have converts : mode.Converts ∧ name.Converts :=
    ⟨Entry.converts_of_isOk rfl, Entry.converts_of_isOk rfl⟩
  obtain ⟨accepts, attributes, _⟩ :=
    Model.ofDocument_decides .transform "map" (document [hidden, mode, name])
  obtain ⟨rejects, _⟩ :=
    Model.ofDocument_decides .transform "map" (document [hidden, mode, name, again])
  obtain ⟨keeps, _⟩ := Model.ofDocument_decides .source "map" (document [mode, name])
  obtain ⟨m, found⟩ := accepts.mpr
    (.cons converts.1 (by decide) (by decide) (by decide) (.nil _ _))
  refine ⟨⟨m, found, ?_⟩, fun accepted => ?_, keeps.mpr ?_⟩
  · obtain ⟨more, all, each⟩ := attributes m found
    obtain ⟨a, rest, ⟨_, api, named, field⟩, nothing, rfl⟩ := List.forall₂_cons_right_iff.mp each
    obtain rfl := List.forall₂_nil_right_iff.mp nothing
    rw [all]
    simp only [List.map_append, List.map_cons, List.map_nil, api, named, field]
    decide +kernel
  · exact absurd (rejects.mp accepted).distinctNames (by decide +kernel)
  · exact .cons converts.1 (by decide) (by decide) (by decide)
      (.cons converts.2 (by decide) (by decide) (by decide) (.nil _ _))

end ConnectorSchema
