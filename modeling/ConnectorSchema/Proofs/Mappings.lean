import Mathlib.Data.List.Nodup
import ConnectorSchema.Proofs.AttributeRules
import ConnectorSchema.Proofs.Identifier

/-!
The table from attribute names to backend names. An attribute that no entry stands behind has an empty
backend name, so the table is complete only because no entry with an empty name is ever accepted.
-/

namespace ConnectorSchema

/-- Without a name there is no field that begins with a letter. -/
theorem Entry.name_ne_empty {e : Entry} (letter : BeginsWithLetter e.fieldName) : e.name ≠ "" := by
  intro empty
  rw [fieldName, attributeName, empty] at letter
  exact absurd letter (by decide)

theorem EntityKind.apiName_of_synthetic {kind : EntityKind} {a : Attribute}
    (member : a ∈ kind.syntheticAttributes) : a.apiName = "" := by
  revert a
  cases kind <;> simp [syntheticAttributes, Attribute.synthetic]

/-- Among attributes with different names, a look-up by name finds the attribute with that name. -/
theorem find?_name_of_nodup {attributes : List Attribute}
    (distinct : (attributes.map (·.name)).Nodup) {a : Attribute} (member : a ∈ attributes) :
    attributes.find? (·.name = a.name) = some a := by
  obtain ⟨b, found⟩ : ∃ b, attributes.find? (·.name = a.name) = some b :=
    Option.isSome_iff_exists.mp (List.find?_isSome.mpr ⟨a, member, by simp⟩)
  have same : b.name = a.name := by simpa using List.find?_some found
  rw [found, List.inj_on_of_nodup_map distinct (List.mem_of_find?_eq_some found) member same]

section

variable {kind : EntityKind} {entries : List Entry} {more : List Attribute}

/-- The names of the attributes of admissible entries are new and differ from each other. -/
theorem nodup_names (all : Admissible kind.syntheticNames kind.syntheticFields entries)
    (found : entries.map Attribute.ofEntry = more.map .ok) :
    ((kind.syntheticAttributes ++ more).map (·.name)).Nodup := by
  have names : more.map (·.name) = entries.map (·.attributeName) :=
    map_eq_of_forall₂ ((forall₂_of_map_ofEntry found).imp fun _ _ => Attribute.name_of_ofEntry)
  rw [List.map_append, List.nodup_append, names, kind.map_name_syntheticAttributes]
  refine ⟨by cases kind <;> decide, all.distinctNames, fun taken synthetic name member => ?_⟩
  obtain ⟨e, kept, rfl⟩ := List.mem_map.mp member
  exact fun same => all.newNames e kept (same ▸ synthetic)

/-- Synthetic attributes have no row in the table, and every other one has its own. -/
theorem rows_eq (all : Admissible kind.syntheticNames kind.syntheticFields entries)
    (found : entries.map Attribute.ofEntry = more.map .ok) :
    ((kind.syntheticAttributes ++ more).filter (·.apiName ≠ "")).map (fun a => (a.name, a.apiName))
      = entries.map fun e => (e.attributeName, e.name) := by
  have each := forall₂_of_map_ofEntry found
  have rows : more.map (fun a => (a.name, a.apiName))
      = entries.map fun e => (e.attributeName, e.name) := by
    refine map_eq_of_forall₂ (each.imp fun a e ofEntry => ?_)
    rw [Attribute.name_of_ofEntry ofEntry, (Attribute.reflects_of_ofEntry ofEntry).apiName]
  have none : kind.syntheticAttributes.filter (·.apiName ≠ "") = [] := by
    refine List.filter_eq_nil_iff.mpr fun a member => ?_
    simp [kind.apiName_of_synthetic member]
  have every : more.filter (·.apiName ≠ "") = more := by
    refine List.filter_eq_self.mpr fun a member => ?_
    have image : (a.name, a.apiName) ∈ entries.map fun e => (e.attributeName, e.name) :=
      rows ▸ List.mem_map_of_mem member
    obtain ⟨e, kept, same⟩ := List.mem_map.mp image
    have api : e.name = a.apiName := (Prod.mk.inj same).2
    simpa [← api] using Entry.name_ne_empty (all.letters e kept)
  rw [List.filter_append, none, every, List.nil_append, rows]

/-- Entries of one name would have one attribute name. -/
theorem Admissible.nodup_entryNames {names fields : List String}
    (all : Admissible names fields entries) : (entries.map (·.name)).Nodup := by
  have distinct := all.distinctNames
  have factors : entries.map (·.attributeName) = (entries.map (·.name)).map Naming.attributeName := by
    rw [List.map_map]
    rfl
  rw [factors] at distinct
  exact distinct.of_map

/-- The attribute name of an entry leads to its attribute and to none that is always there. -/
theorem exists_find?_name (all : Admissible kind.syntheticNames kind.syntheticFields entries)
    (found : entries.map Attribute.ofEntry = more.map .ok) {e : Entry} (kept : e ∈ entries) :
    ∃ a, (kind.syntheticAttributes ++ more).find? (·.name = e.attributeName) = some a
      ∧ a.apiName = e.name := by
  have image : Attribute.ofEntry e ∈ more.map .ok := found ▸ List.mem_map_of_mem kept
  obtain ⟨a, inMore, ofEntry⟩ := List.mem_map.mp image
  have listed : a ∈ kind.syntheticAttributes ++ more := List.mem_append_right _ inMore
  have lookup := find?_name_of_nodup (nodup_names all found) listed
  rw [Attribute.name_of_ofEntry ofEntry.symm] at lookup
  exact ⟨a, lookup, (Attribute.reflects_of_ofEntry ofEntry.symm).apiName⟩

end

/-- The table of an accepted model has one row for each entry of the user, in transforms for all but the
one for their name, in order, and no other. Both of its columns are without repetition; the first avoids
the names that are always there and the second is never empty. Looking up the attribute name of such an
entry gives the attribute of that entry. -/
theorem Model.mappings_bijective {kind : EntityKind} {code : String} {d : Document} {m : Model}
    (accepted : Model.ofDocument kind code d = .ok m) :
    let kept := d.entries.filter fun e =>
      e.userDefined ∧ (kind = .transform → e.name ≠ "transforms.name")
    m.mappings = kept.map (fun e => (Naming.attributeName e.name, e.name))
      ∧ (m.mappings.map Prod.fst).Nodup
      ∧ (∀ name ∈ m.mappings.map Prod.fst,
        name ∉ ["id", "name", if kind = .transform then "transform_type" else "connector"])
      ∧ (m.mappings.map Prod.snd).Nodup
      ∧ (∀ name ∈ m.mappings.map Prod.snd, name ≠ "")
      ∧ ∀ e ∈ kept, ∃ a, m.attribute? (Naming.attributeName e.name) = some a
        ∧ a.apiName = e.name := by
  intro kept
  obtain ⟨all, more, found, model⟩ := Model.of_accepted accepted
  rw [← kind.syntheticNames_eq]
  rw [d.keptEntries_eq] at all found
  have rows : m.mappings = kept.map fun e => (e.attributeName, e.name) := by
    rw [model]
    exact rows_eq all found
  have firsts : m.mappings.map Prod.fst = kept.map (·.attributeName) := by
    rw [rows, List.map_map]
    rfl
  have seconds : m.mappings.map Prod.snd = kept.map (·.name) := by
    rw [rows, List.map_map]
    rfl
  rw [firsts, seconds]
  refine ⟨rows, all.distinctNames, ?_, all.nodup_entryNames, ?_, fun e member => ?_⟩
  · exact List.forall_mem_map.mpr all.newNames
  · exact List.forall_mem_map.mpr fun e member => Entry.name_ne_empty (all.letters e member)
  · rw [model]
    exact exists_find?_name all found member

/-- The name of a transform has no row, since the attribute `name` that is always there stands for it,
and neither has an entry that is not the user's. -/
theorem Model.mappings_bijective_transform :
    let hidden : Entry := { Entry.ofControl "transforms.topic" .string with userDefined := false }
    ∃ m, Model.ofDocument .transform "map_filter" (.ofEntries "Map"
        [.ofControl "transforms.name" .string, hidden, .ofControl "transforms.sslMode" .string,
          .ofControl "topic" .string]) = .ok m
      ∧ m.mappings = [("transforms_ssl_mode", "transforms.sslMode"), ("topic", "topic")]
      ∧ ∃ a, m.attribute? "transforms_ssl_mode" = some a ∧ a.apiName = "transforms.sslMode" := by
  intro hidden
  let document := Document.ofEntries "Map" [.ofControl "transforms.name" .string, hidden,
    .ofControl "transforms.sslMode" .string, .ofControl "topic" .string]
  have all : Admissible (EntityKind.syntheticNames .transform) (EntityKind.syntheticFields .transform)
      (document.keptEntries .transform) :=
    .cons (Entry.ofControl_converts _) (by decide) (by decide) (by decide)
      (.cons (Entry.ofControl_converts _) (by decide) (by decide) (by decide) (.nil _ _))
  obtain ⟨_, _, accepted⟩ := Model.ofDocument_of_admissible "map_filter" all
  obtain ⟨rows, _, _, _, _, found⟩ := Model.mappings_bijective accepted
  have kept : Entry.ofControl "transforms.sslMode" .string ∈ document.entries.filter fun e =>
      e.userDefined ∧ (EntityKind.transform = .transform → e.name ≠ "transforms.name") :=
    List.mem_cons_self
  have name : Naming.attributeName "transforms.sslMode" = "transforms_ssl_mode" := by decide
  obtain ⟨a, lookup, api⟩ := found _ kept
  refine ⟨_, accepted, ?_, a, ?_, api⟩
  · rw [rows]
    decide +kernel
  · rw [← name]
    exact lookup

end ConnectorSchema
