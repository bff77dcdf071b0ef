import Mathlib.Data.List.Forall2
import ConnectorSchema.Generation
import ConnectorSchema.Proofs.Acceptance

/-!
What never reaches the output. An entry is looked at through a few of its fields, and some of these
only where its control gives them a meaning; two documents that agree on that much are generated
alike, down to the reports (`Document.generate_of_alike`).
-/

namespace ConnectorSchema

/-- Two entries that look the same to whoever reads only what attributes are made of. -/
structure Entry.Alike (e e' : Entry) : Prop where
  name : e.name = e'.name
  required : e.isRequired = e'.isRequired
  description : e.description = e'.description
  displayName : e.displayName = e'.displayName
  encrypt : e.encrypt = e'.encrypt
  setOnce : e.setOnce = e'.setOnce
  control : e.input.control = e'.input.control
  default : e.input.defaultValue = e'.input.defaultValue
  /-- Choices mean something in a one-select only. -/
  choices : e.input.control = .oneSelect → e.input.choices = e'.input.choices
  /-- Bounds mean something for a slider only. -/
  bounds : e.input.control = .slider → e.input.min = e'.input.min ∧ e.input.max = e'.input.max

/-- Two documents that look the same: entries of the backend may stand anywhere between those of the
user, or be missing. -/
structure Document.Alike (d d' : Document) : Prop where
  displayName : d.displayName = d'.displayName
  description : d.description = d'.description
  entries : List.Forall₂ Entry.Alike d.userEntries d'.userEntries

namespace Entry.Alike

variable {e e' : Entry}

theorem kind (same : e.Alike e') : e.kind = e'.kind := by
  rw [Entry.kind, Entry.kind, same.control]

theorem isSensitive (same : e.Alike e') : e.isSensitive = e'.isSensitive := by
  rw [Entry.isSensitive, Entry.isSensitive, same.encrypt, same.control]

theorem default_given? (same : e.Alike e') (kind : ValueKind) :
    Default.given? kind e = Default.given? kind e' := by
  simp only [Default.given?, Input.defaultString?, Input.defaultInt64?, Input.defaultBoolean?,
    same.name, same.control, same.default]

theorem validValues? (same : e.Alike e') : e.validValues? = e'.validValues? := by
  unfold Entry.validValues?
  -- the choices agree only where they are looked at
  by_cases select : e.input.control = .oneSelect
  · rw [Input.choiceTexts, Input.choiceTexts, ← same.control, ← same.choices select]
  · have select' : e'.input.control ≠ .oneSelect := same.control ▸ select
    rw [if_neg fun both => select both.1, if_neg fun both => select' both.1]

theorem validator_given? (same : e.Alike e') :
    Validator.given? e = Validator.given? e' := by
  unfold Validator.given?
  rw [← same.control, ← same.validValues?, ← same.name]
  cases control : e.input.control with
  | slider =>
    obtain ⟨min, max⟩ := same.bounds control
    rw [Input.hasRange, Input.hasRange, Input.sliderMin, Input.sliderMin, Input.sliderMax,
      Input.sliderMax, min, max]
  | _ => rfl

theorem attribute_eq (same : e.Alike e') (default? : Option Default) (validator? : Option Validator) :
    e.attribute default? validator? = e'.attribute default? validator? := by
  have summary : e.summary = e'.summary := by
    rw [Entry.summary, Entry.summary, same.description, same.displayName]
  simp only [Entry.attribute, Entry.fieldName, Entry.attributeName, Entry.presence, Entry.describe,
    Entry.describeMarkdown, same.name, same.kind, same.required, same.default, same.isSensitive,
    same.setOnce, same.validValues?, summary]

/-- The attribute of an entry, or what is wrong with it. -/
theorem ofEntry (same : e.Alike e') : Attribute.ofEntry e = Attribute.ofEntry e' := by
  rw [Attribute.ofEntry_eq, Attribute.ofEntry_eq, ← same.kind, ← same.default_given?,
    ← same.validator_given?, ← same.isSensitive, ← same.name, ← same.control]
  simp only [same.attribute_eq]

theorem addEntry (same : e.Alike e') (attributes : List Attribute) :
    ConnectorSchema.addEntry attributes e = ConnectorSchema.addEntry attributes e' := by
  rw [ConnectorSchema.addEntry, ConnectorSchema.addEntry, same.ofEntry, same.name]

theorem keeps (same : e.Alike e') (kind : EntityKind) : kind.keeps e = kind.keeps e' := by
  rw [EntityKind.keeps, EntityKind.keeps, same.name]

end Entry.Alike

theorem keptEntries_of_alike {d d' : Document} (same : d.Alike d') (kind : EntityKind) :
    List.Forall₂ Entry.Alike (d.keptEntries kind) (d'.keptEntries kind) :=
  List.rel_filter (fun _ _ alike => iff_of_eq (congrArg (· = true) (alike.keeps kind))) same.entries

/-- One entry after the other adds the same attribute on both sides, or stops both at the same
problem. -/
theorem foldlM_addEntry_of_alike {entries entries' : List Entry}
    (each : List.Forall₂ Entry.Alike entries entries') (attributes : List Attribute) :
    entries.foldlM addEntry attributes = entries'.foldlM addEntry attributes := by
  induction each generalizing attributes with
  | nil => rfl
  | cons same _ ih =>
    rw [List.foldlM_cons, List.foldlM_cons, same.addEntry]
    exact congrArg _ (funext ih)

theorem passedOver_of_alike (kind : EntityKind) {entries entries' : List Entry}
    (each : List.Forall₂ Entry.Alike entries entries') (attributes : List Attribute) :
    (passedOver kind attributes entries).map (·.name)
      = (passedOver kind attributes entries').map (·.name) := by
  induction each generalizing attributes with
  | nil => rfl
  | @cons e e' rest rest' same _ ih =>
    rw [passedOver, passedOver, ← same.keeps kind, ← same.addEntry]
    split
    · cases addEntry attributes e with
      | ok more => exact ih more
      | error => rfl
    · rw [List.map_cons, List.map_cons, same.name, ih]

theorem Model.ofDocument_of_alike {d d' : Document} (same : d.Alike d') (kind : EntityKind)
    (code : String) : Model.ofDocument kind code d = Model.ofDocument kind code d' := by
  have attributes :
      attributesOf kind (d.keptEntries kind) = attributesOf kind (d'.keptEntries kind) := by
    rw [attributesOf, attributesOf, foldlM_addEntry_of_alike (keptEntries_of_alike same kind)]
  simp only [Model.ofDocument, Document.describe, attributes, same.displayName, same.description]

theorem Document.modelEvents_of_alike {d d' : Document} (same : d.Alike d') (kind : EntityKind)
    (code : String) (model : Except Problem Model) :
    d.modelEvents kind code model = d'.modelEvents kind code model := by
  have names := passedOver_of_alike kind same.entries kind.syntheticAttributes
  have events := congrArg (List.map Event.passedOver) names
  rw [List.map_map, List.map_map] at events
  exact congrArg (· ++ _) events

/-- Two documents that look the same have the same model or the same problem, the same text is
rendered for them, and generating them does the same to every file system, with the same reports. -/
theorem Document.generate_of_alike {d d' : Document} (same : d.Alike d') (kind : EntityKind)
    (code : String) :
    Model.ofDocument kind code d = Model.ofDocument kind code d'
      ∧ (Model.ofDocument kind code d).map Go.render
        = (Model.ofDocument kind code d').map Go.render
      ∧ ∀ fs dir formatter,
        d.generate fs kind code dir formatter = d'.generate fs kind code dir formatter := by
  have model := Model.ofDocument_of_alike same kind code
  refine ⟨model, by rw [model], fun fs dir formatter => ?_⟩
  simp only [Document.generate, model, Document.modelEvents_of_alike same]

/-- An entry of the backend between those of the user, the choices of a text field and the bound of
another one are not seen. -/
theorem Document.generate_of_alike_opaque :
    let host := Entry.ofControl "db.host" .string
    let schema := Entry.ofControl "db.schema" .string
    let chosen : Entry := { host with
      conditions := some [], input := { host.input with choices := [.string "a"], rows := some .null } }
    let bounded : Entry := { schema with
      required := some false, kafka := some (.flag true),
      input := { schema.input with min := some (.zero false) } }
    let hidden : Entry := { host with userDefined := false }
    let plain := Document.ofEntries "Postgres" [host, schema]
    let full : Document :=
      ⟨"Postgres", none, some .null, some "pg", none, [chosen, hidden, bounded]⟩
    plain.Alike full
      ∧ (∃ m, Model.ofDocument .source "pg" plain = .ok m)
      ∧ (Model.ofDocument .source "pg" plain).map Go.render
        = (Model.ofDocument .source "pg" full).map Go.render := by
  intro host schema chosen bounded hidden plain full
  have first : host.Alike chosen :=
    ⟨rfl, rfl, rfl, rfl, rfl, rfl, rfl, rfl, fun select => Control.noConfusion select,
      fun slider => Control.noConfusion slider⟩
  have second : schema.Alike bounded :=
    ⟨rfl, rfl, rfl, rfl, rfl, rfl, rfl, rfl, fun select => Control.noConfusion select,
      fun slider => Control.noConfusion slider⟩
  have alike : plain.Alike full := ⟨rfl, rfl, .cons first (.cons second .nil)⟩
  have converts (name : String) : (Entry.ofControl name .string).Converts :=
    Entry.converts_of_isOk rfl
  have all : Admissible (EntityKind.syntheticNames .source) (EntityKind.syntheticFields .source)
      (plain.keptEntries .source) :=
    .cons (converts _) (by decide) (by decide) (by decide)
      (.cons (converts _) (by decide) (by decide) (by decide) (.nil _ _))
  obtain ⟨_, _, accepted⟩ := Model.ofDocument_of_admissible "pg" all
  exact ⟨alike, ⟨_, accepted⟩, (Document.generate_of_alike alike .source "pg").2.1⟩

end ConnectorSchema
