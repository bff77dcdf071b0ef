import Mathlib.Data.List.Forall2
import ConnectorSchema.Proofs.Acceptance

/-!
What holds between the parts of an attribute, whatever document it comes from. An attribute is made
from what its control, its default as written and its flags say separately; `Attribute.Coherent` and
`Attribute.Reflects` say that the results fit together.
-/

namespace ConnectorSchema

/-- The rules that every attribute of a model keeps. -/
structure Attribute.Coherent (a : Attribute) : Prop where
  defaultPresence : a.default?.isSome ↔ a.presence = .optionalComputed
  defaultKind : ∀ value, a.default? = some value → value.kind = a.kind
  listDefault : a.kind = .stringList → a.default? = none
  secretIsText : a.sensitive → a.kind = .string
  oneOf : ∀ values, a.validator? = some (.oneOf values) → a.kind = .string ∧ values ≠ []
  between : ∀ min max, a.validator? = some (.between min max) → a.kind = .int64

/-- What an attribute takes over from the entry behind it. -/
structure Attribute.Reflects (a : Attribute) (e : Entry) : Prop where
  apiName : a.apiName = e.name
  requiresReplace : a.requiresReplace = e.setOnce
  sensitive : a.sensitive ↔ e.encrypt ∨ e.input.control = .password
  /-- Nobody can tell what the value of an unknown control may be. -/
  unknownControl : ∀ tag, e.input.control = .other tag → a.default? = none ∧ a.validator? = none

/-- Options come from a select control and bounds from a slider. -/
theorem Validator.of_ofEntry {e : Entry} {v : Validator}
    (found : Validator.given? e = .ok (some v)) :
    (e.input.control = .oneSelect ∧ ∃ values, values ≠ [] ∧ v = .oneOf values)
      ∨ e.input.control = .slider ∧ ∃ min max, v = .between min max := by
  unfold Validator.given? at found
  split at found
  · rename_i select
    obtain ⟨values, valid, rfl⟩ := Option.map_eq_some_iff.mp (Except.ok.inj found)
    refine Or.inl ⟨select, values, ?_, rfl⟩
    unfold Entry.validValues? at valid
    split at valid
    · rename_i chosen
      rw [← Option.some.inj valid]
      exact chosen.2
    · contradiction
  · rename_i slider
    refine Or.inr ⟨slider, ?_⟩
    split at found
    · split at found
      · contradiction
      · split at found
        · contradiction
        · exact ⟨_, _, (Option.some.inj (Except.ok.inj found)).symm⟩
    · cases found
  · cases found

namespace Attribute

theorem coherent_of_ofEntry {e : Entry} {a : Attribute} (found : ofEntry e = .ok a) :
    a.Coherent := by
  obtain ⟨secret, default?, validator?, hasDefault, hasValidator, rfl⟩ := ofEntry_ok_iff.mp found
  refine ⟨?_, ?_, ?_, Entry.secretIsText_iff_kind.mp secret, ?_, ?_⟩
  · change default?.isSome ↔ e.presence default? = .optionalComputed
    cases default? with
    | none =>
      unfold Entry.presence
      split <;> simp
    | some value =>
      have written := Default.isSome_of_given hasDefault
      simp [Entry.presence_of_default value written]
  · rintro value rfl
    exact Default.kind_of_given hasDefault
  · intro list
    have unread : ¬ e.readsDefault := by
      have kind : e.kind = .stringList := list
      simp [Entry.readsDefault, kind, ValueKind.admitsDefault]
    exact Except.ok.inj (hasDefault.symm.trans (Default.given?_absent (Or.inr unread)))
  · rintro values rfl
    rcases Validator.of_ofEntry hasValidator with ⟨select, _, some, same⟩ | ⟨_, _, _, other⟩
    · cases same
      exact ⟨congrArg ValueKind.ofControl select, some⟩
    · contradiction
  · rintro min max rfl
    rcases Validator.of_ofEntry hasValidator with ⟨_, _, _, other⟩ | ⟨slider, _⟩
    · contradiction
    · exact congrArg ValueKind.ofControl slider

theorem reflects_of_ofEntry {e : Entry} {a : Attribute} (found : ofEntry e = .ok a) :
    a.Reflects e := by
  obtain ⟨_, default?, validator?, hasDefault, hasValidator, rfl⟩ := ofEntry_ok_iff.mp found
  refine ⟨rfl, rfl, ?_, ?_⟩
  · simp [Entry.attribute, Entry.isSensitive]
  · intro tag unknown
    have unread : ¬ e.readsDefault := by simp [Entry.readsDefault, unknown, Control.isKnown]
    constructor
    · exact Except.ok.inj (hasDefault.symm.trans (Default.given?_absent (Or.inr unread)))
    · have none : Validator.given? e = .ok none := by simp [Validator.given?, unknown]
      exact Except.ok.inj (hasValidator.symm.trans none)

/-- Only the backend's own attributes are computed, and no entry stands behind these. -/
theorem not_computed_of_ofEntry {e : Entry} {a : Attribute} (found : ofEntry e = .ok a) :
    a.presence ≠ .computed ∧ a.stateForUnknown = false := by
  obtain ⟨_, default?, _, _, _, rfl⟩ := ofEntry_ok_iff.mp found
  exact ⟨e.presence_ne_computed default?, rfl⟩

theorem coherent_of_synthetic {kind : EntityKind} {a : Attribute}
    (member : a ∈ kind.syntheticAttributes) : a.Coherent := by
  have plain : a.default? = none ∧ a.validator? = none ∧ a.sensitive = false
      ∧ a.presence ≠ .optionalComputed := by
    revert a
    cases kind <;> simp [EntityKind.syntheticAttributes, Attribute.synthetic]
  obtain ⟨noDefault, noValidator, shown, presence⟩ := plain
  constructor <;> simp [noDefault, noValidator, shown, presence]

end Attribute

/-- The attributes that keep their state are those at the first and the third place: `id` and the
connector's type. -/
theorem EntityKind.computed_iff (kind : EntityKind) {more : List Attribute}
    (supplied : ∀ a ∈ more, a.presence ≠ .computed ∧ a.stateForUnknown = false) {i : Nat}
    {a : Attribute} (place : (kind.syntheticAttributes ++ more)[i]? = some a) :
    (a.presence = .computed ↔ i = 0 ∨ i = 2) ∧ (a.stateForUnknown ↔ i = 0 ∨ i = 2) := by
  have three : kind.syntheticAttributes.length = 3 := by cases kind <;> rfl
  by_cases early : i < 3
  · rw [List.getElem?_append_left (by omega)] at place
    have cases : i = 0 ∨ i = 1 ∨ i = 2 := by omega
    rcases cases with rfl | rfl | rfl <;> cases kind <;> cases place <;> decide
  · rw [List.getElem?_append_right (by omega)] at place
    obtain ⟨notComputed, stays⟩ := supplied a (List.mem_of_getElem? place)
    have late : ¬ (i = 0 ∨ i = 2) := by omega
    simp [notComputed, stays, late]

/-- A model is never refused because the parts of an attribute do not fit together: what an entry is
turned into always passes that check, and every problem was found before it. In a model, every
attribute keeps the rules between its parts, only the first and the third are the backend's own, and
those behind the synthetic ones reflect the kept entries in order. -/
theorem Model.attributes_coherent (kind : EntityKind) (code : String) (d : Document) :
    (∀ e a, Attribute.ofEntry e = .ok a → a.check = .ok ())
      ∧ (∀ p, Model.ofDocument kind code d = .error p →
        (d.keptEntries kind).foldlM addEntry kind.syntheticAttributes = .error p)
      ∧ ∀ m, Model.ofDocument kind code d = .ok m →
        (∀ a ∈ m.attributes, a.Coherent)
          ∧ (∀ i a, m.attributes[i]? = some a →
            (a.presence = .computed ↔ i = 0 ∨ i = 2) ∧ (a.stateForUnknown ↔ i = 0 ∨ i = 2))
          ∧ ∃ more, m.attributes = kind.syntheticAttributes ++ more
            ∧ List.Forall₂ Attribute.Reflects more (d.keptEntries kind) := by
  refine ⟨fun e a found => Attribute.check_eq_ok (Attribute.violation?_ofEntry found),
    fun p failed => ?_, fun m accepted => ?_⟩
  · rcases foldlM_addEntry_cases kind.syntheticAttributes (d.keptEntries kind) with
      ⟨admissible, _⟩ | ⟨_, e, _, v, _, _, _, refused⟩
    · rw [kind.map_name_syntheticAttributes, kind.map_fieldName_syntheticAttributes] at admissible
      obtain ⟨_, _, accepted⟩ := Model.ofDocument_of_admissible code admissible
      cases accepted.symm.trans failed
    · have stopped : Model.ofDocument kind code d = .error (.entry e.name v) := by
        rw [Model.ofDocument, attributesOf, refused]
        rfl
      rw [refused, ← Except.error.inj (stopped.symm.trans failed)]
  · rcases Model.ofDocument_cases kind code d with ⟨_, more, found, model⟩ |
      ⟨_, _, _, _, _, _, _, failed⟩
    case inr => cases failed.symm.trans accepted
    cases model.symm.trans accepted
    have each := forall₂_of_map_ofEntry found
    have supplied : ∀ a ∈ more, ∃ e, Attribute.ofEntry e = .ok a := by
      intro a member
      have image : .ok a ∈ (d.keptEntries kind).map Attribute.ofEntry :=
        found ▸ List.mem_map_of_mem member
      obtain ⟨e, _, ofEntry⟩ := List.mem_map.mp image
      exact ⟨e, ofEntry⟩
    refine ⟨fun a member => ?_, fun i a place => ?_, more, rfl,
      each.imp fun _ _ => Attribute.reflects_of_ofEntry⟩
    · rcases List.mem_append.mp member with synthetic | inMore
      · exact Attribute.coherent_of_synthetic synthetic
      · obtain ⟨e, ofEntry⟩ := supplied a inMore
        exact Attribute.coherent_of_ofEntry ofEntry
    · refine kind.computed_iff (fun a inMore => ?_) place
      obtain ⟨e, ofEntry⟩ := supplied a inMore
      exact Attribute.not_computed_of_ofEntry ofEntry

/-- A password that has a default and cannot be changed. -/
theorem Model.attributes_coherent_secret :
    let secret : Entry := ⟨"db.password", true, some true, none, none, false, true, none, none,
      { Input.ofControl .password with defaultValue := some (.string "changeme") }⟩
    ∃ m, Model.ofDocument .source "pg" (.ofEntries "Postgres" [secret]) = .ok m
      ∧ ∃ a ∈ m.attributes, a.Coherent ∧ a.apiName = "db.password" ∧ a.requiresReplace
        ∧ a.sensitive := by
  intro secret
  have converts : secret.Converts := Entry.converts_of_isOk rfl
  have kept : (Document.ofEntries "Postgres" [secret]).keptEntries .source = [secret] := rfl
  have all : Admissible (EntityKind.syntheticNames .source) (EntityKind.syntheticFields .source)
      ((Document.ofEntries "Postgres" [secret]).keptEntries .source) := by
    rw [kept]
    exact .cons converts (by decide) (by decide) (by decide) (.nil _ _)
  obtain ⟨_, _, accepted⟩ := Model.ofDocument_of_admissible "pg" all
  obtain ⟨_, _, parts⟩ := Model.attributes_coherent .source "pg" (.ofEntries "Postgres" [secret])
  obtain ⟨coherent, _, more, attributes, reflects⟩ := parts _ accepted
  rw [kept, List.forall₂_cons_right_iff] at reflects
  obtain ⟨a, others, reflects, _, rfl⟩ := reflects
  have member : a ∈ EntityKind.source.syntheticAttributes ++ a :: others :=
    List.mem_append_right _ List.mem_cons_self
  rw [← attributes] at member
  exact ⟨_, accepted, a, member, coherent a member, reflects.apiName,
    reflects.requiresReplace.trans rfl, reflects.sensitive.mpr (Or.inr rfl)⟩

end ConnectorSchema
