import ConnectorSchema.Proofs.Identifier
import ConnectorSchema.Proofs.ImportUse

/-!
Entries are modeled one by one. Whether a list of entries is admissible does not depend on their order,
and fewer of them stay admissible, so a document with a model keeps one when its entries are put in
another order or left out, and every entry that is still there keeps its attribute
(`Model.ofDocument_rearranged`).
-/

namespace ConnectorSchema

namespace Admissible

variable {names fields : List String} {entries others : List Entry}

theorem sublist (all : Admissible names fields entries) (part : others.Sublist entries) :
    Admissible names fields others where
  converts e member := all.converts e (part.subset member)
  distinctNames := (part.map _).nodup all.distinctNames
  newNames e member := all.newNames e (part.subset member)
  letters e member := all.letters e (part.subset member)
  distinctFields := (part.map _).nodup all.distinctFields
  newFields e member := all.newFields e (part.subset member)

theorem perm (all : Admissible names fields entries) (order : others.Perm entries) :
    Admissible names fields others where
  converts e member := all.converts e (order.subset member)
  distinctNames := (order.map _).nodup_iff.mpr all.distinctNames
  newNames e member := all.newNames e (order.subset member)
  letters e member := all.letters e (order.subset member)
  distinctFields := (order.map _).nodup_iff.mpr all.distinctFields
  newFields e member := all.newFields e (order.subset member)

end Admissible

theorem attributes_eq_filterMap {entries : List Entry} {more : List Attribute}
    (found : entries.map Attribute.ofEntry = more.map .ok) :
    more = entries.filterMap fun e => (Attribute.ofEntry e).toOption := by
  have read : (more.map .ok).filterMap (Except.toOption (ε := Problem)) = more := by
    rw [List.filterMap_map]
    exact List.filterMap_some
  rw [← read, ← found, List.filterMap_map]
  rfl

theorem KindCapabilities.ofAttributes_perm {as bs : List Attribute} (order : as.Perm bs) :
    ofAttributes as = ofAttributes bs := by
  simp only [ofAttributes, order.any_eq]

theorem Capabilities.ofAttributes_perm {as bs : List Attribute} (order : as.Perm bs) :
    ofAttributes as = ofAttributes bs := by
  have each (kind : ValueKind) := KindCapabilities.ofAttributes_perm (order.filter (·.kind = kind))
  simp only [ofAttributes, each, order.any_eq]

/-- More attributes never need fewer packages. -/
theorem Go.imports_mono {as bs : List Attribute} (part : as ⊆ bs) :
    imports (Capabilities.ofAttributes as) ⊆ imports (Capabilities.ofAttributes bs) := by
  intro path listed
  obtain ⟨p, needed, rfl⟩ := mem_imports_iff.mp listed
  refine mem_imports_iff.mpr ⟨p, Package.neededFor_ofAttributes.mpr ?_, rfl⟩
  rcases Package.neededFor_ofAttributes.mp needed with schema | types | ⟨a, member, used⟩
  · exact Or.inl schema
  · exact Or.inr (Or.inl types)
  · exact Or.inr (Or.inr ⟨a, part member, used⟩)

theorem Document.keptEntries_perm {d : Document} {entries : List Entry}
    (order : entries.Perm d.entries) (kind : EntityKind) :
    ({ d with entries }.keptEntries kind).Perm (d.keptEntries kind) :=
  (order.filter _).filter _

theorem Document.keptEntries_sublist {d : Document} {entries : List Entry}
    (part : entries.Sublist d.entries) (kind : EntityKind) :
    ({ d with entries }.keptEntries kind).Sublist (d.keptEntries kind) :=
  (part.filter _).filter _

/-- The entries of a document with a model may be put in any order, and any of them may be left out.
There is a model still, in which each entry has the attribute that it has on its own, in its new place,
and all else is as it was: in another order even the capabilities, and with entries left out no package
is imported that was not imported before. -/
theorem Model.ofDocument_rearranged {kind : EntityKind} {code : String} {d : Document} {m : Model}
    (accepted : Model.ofDocument kind code d = .ok m) :
    ∃ more, m.attributes = kind.syntheticAttributes ++ more
      ∧ (d.keptEntries kind).map Attribute.ofEntry = more.map .ok
      ∧ (∀ entries, entries.Perm d.entries → ∃ m' others,
        Model.ofDocument kind code { d with entries } = .ok m'
          ∧ ({ d with entries }.keptEntries kind).map Attribute.ofEntry = others.map .ok
          ∧ others.Perm more
          ∧ m' = { m with attributes := kind.syntheticAttributes ++ others }
          ∧ m'.capabilities = m.capabilities
          ∧ Go.imports m'.capabilities = Go.imports m.capabilities)
      ∧ ∀ entries, entries.Sublist d.entries → ∃ m' others,
        Model.ofDocument kind code { d with entries } = .ok m'
          ∧ ({ d with entries }.keptEntries kind).map Attribute.ofEntry = others.map .ok
          ∧ others.Sublist more
          ∧ m' = { m with
            attributes := kind.syntheticAttributes ++ others, capabilities := m'.capabilities }
          ∧ Go.imports m'.capabilities ⊆ Go.imports m.capabilities := by
  rcases Model.ofDocument_cases kind code d with ⟨all, more, found, model⟩ |
    ⟨_, _, _, _, _, _, _, failed⟩
  case inr => cases failed.symm.trans accepted
  cases model.symm.trans accepted
  have before := attributes_eq_filterMap found
  refine ⟨more, rfl, found, fun entries order => ?_, fun entries part => ?_⟩
  · have kept := Document.keptEntries_perm order kind
    obtain ⟨others, now, again⟩ :=
      Model.ofDocument_of_admissible (d := { d with entries }) code (all.perm kept)
    have moved : others.Perm more := by
      rw [attributes_eq_filterMap now, before]
      exact kept.filterMap _
    have same : Capabilities.ofAttributes (kind.syntheticAttributes ++ others)
        = Capabilities.ofAttributes (kind.syntheticAttributes ++ more) :=
      Capabilities.ofAttributes_perm (moved.append_left _)
    refine ⟨_, others, again, now, moved, ?_, same, congrArg Go.imports same⟩
    rw [Document.model, same]
    rfl
  · have kept := Document.keptEntries_sublist part kind
    obtain ⟨others, now, again⟩ :=
      Model.ofDocument_of_admissible (d := { d with entries }) code (all.sublist kept)
    have fewer : others.Sublist more := by
      rw [attributes_eq_filterMap now, before]
      exact kept.filterMap _
    refine ⟨_, others, again, now, fewer, rfl, Go.imports_mono ?_⟩
    exact (fewer.append_left kind.syntheticAttributes).subset

/-- Two entries change places, and the one that cannot be changed later is left out with its import. -/
theorem Model.ofDocument_rearranged_pair :
    let host := Entry.ofControl "db.host" .string
    let port : Entry := { Entry.ofControl "db.port" .number with setOnce := true }
    let stem := Document.ofEntries "Postgres"
    ∃ m, Model.ofDocument .source "pg" (stem [host, port]) = .ok m
      ∧ (∃ m', Model.ofDocument .source "pg" (stem [port, host]) = .ok m'
        ∧ m'.attributes ≠ m.attributes ∧ m'.capabilities = m.capabilities)
      ∧ ∃ m', Model.ofDocument .source "pg" (stem [host]) = .ok m'
        ∧ Go.imports m'.capabilities ⊆ Go.imports m.capabilities := by
  intro host port stem
  have converts : port.Converts := Entry.converts_of_isOk rfl
  have all : Admissible (EntityKind.syntheticNames .source) (EntityKind.syntheticFields .source)
      ((stem [host, port]).keptEntries .source) :=
    .cons (Entry.ofControl_converts _) (by decide) (by decide) (by decide)
      (.cons converts (by decide) (by decide) (by decide) (.nil _ _))
  obtain ⟨_, _, accepted⟩ := Model.ofDocument_of_admissible "pg" all
  obtain ⟨more, attributes, found, reordered, reduced⟩ := Model.ofDocument_rearranged accepted
  obtain ⟨m', others, swapped, now, _, same, capabilities, _⟩ :=
    reordered [port, host] (List.Perm.swap host port [])
  obtain ⟨m'', _, fewer, _, _, _, imports⟩ :=
    reduced [host] ((List.nil_sublist [port]).cons_cons host)
  refine ⟨_, accepted, ⟨m', swapped, fun unmoved => ?_, capabilities⟩, m'', fewer, imports⟩
  have equal : others = more := by
    rw [same, attributes] at unmoved
    exact List.append_cancel_left unmoved
  have moved : [port, host].map Attribute.ofEntry = [host, port].map Attribute.ofEntry := by
    refine now.trans ?_
    rw [equal]
    exact found.symm
  have names := congrArg (List.map fun r => r.toOption.map Attribute.name) moved
  exact absurd names (by decide)

end ConnectorSchema
