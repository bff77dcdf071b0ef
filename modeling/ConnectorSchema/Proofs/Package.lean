import ConnectorSchema.Go.Imports

/-!
Imports as packages. `mem_imports_iff` says which packages are listed for which features, and
`imports_sorted` that each stands once and in increasing order.
-/

namespace ConnectorSchema

theorem ValueKind.mem_all (kind : ValueKind) : kind ∈ all := by
  cases kind <;> decide

namespace Go

/-- The packages that a generated file may name. -/
inductive Package where
  | schema
  | types
  | planModifier
  | validator
  | kindDefault (kind : ValueKind)
  | kindPlanModifier (kind : ValueKind)
  | kindValidator (kind : ValueKind)
deriving DecidableEq

namespace Package

def all : List Package :=
  [.schema, .types, .planModifier, .validator] ++ ValueKind.all.map .kindDefault
    ++ ValueKind.all.map .kindPlanModifier ++ ValueKind.all.map .kindValidator

theorem mem_all (p : Package) : p ∈ all := by
  cases p with
  | schema | types | planModifier | validator => decide
  | kindDefault kind | kindPlanModifier kind | kindValidator kind => cases kind <;> decide

/-- What code calls a package. -/
def name : Package → String
  | schema => "schema"
  | types => "types"
  | planModifier => "planmodifier"
  | validator => "validator"
  | kindDefault kind => packageStem kind ++ "default"
  | kindPlanModifier kind => packageStem kind ++ "planmodifier"
  | kindValidator kind => packageStem kind ++ "validator"

/-- The path up to the name of a package. -/
def directory : Package → String
  | schema => framework ++ "/resource"
  | types => framework
  | validator => framework ++ "/schema"
  | planModifier | kindDefault _ | kindPlanModifier _ => framework ++ "/resource/schema"
  | kindValidator _ => frameworkValidators

/-- The path under which a package is imported. -/
def path (p : Package) : String := p.directory ++ "/" ++ p.name

theorem name_injective {p q : Package} (same : p.name = q.name) : p = q := by
  have all : ∀ p ∈ all, ∀ q ∈ all, p.name = q.name → p = q := by decide
  exact all p p.mem_all q q.mem_all same

end Package

/-- The part of an import path behind its last slash. -/
def lastSegment (path : String) : String :=
  String.ofList (path.toList.reverse.takeWhile (· ≠ '/')).reverse

theorem lastSegment_append (directory : String) {name : String} (plain : '/' ∉ name.toList) :
    lastSegment (directory ++ "/" ++ name) = name := by
  have stays : ∀ c ∈ name.toList.reverse, decide (c ≠ '/') = true := by
    intro c member
    rw [decide_eq_true_eq]
    rintro rfl
    exact plain (List.mem_reverse.mp member)
  have split : (directory ++ "/" ++ name).toList.reverse
      = name.toList.reverse ++ '/' :: directory.toList.reverse := by simp
  rw [lastSegment, split, List.takeWhile_append_of_pos stays, List.takeWhile_cons_of_neg (by simp),
    List.append_nil, List.reverse_reverse, String.ofList_toList]

theorem lastSegment_path (p : Package) : lastSegment p.path = p.name := by
  have plain : ∀ p ∈ Package.all, '/' ∉ p.name.toList := by decide
  exact lastSegment_append p.directory (plain p p.mem_all)

theorem Package.path_injective {p q : Package} (same : p.path = q.path) : p = q := by
  apply name_injective
  rw [← lastSegment_path, ← lastSegment_path, same]

/-- Whether some feature needs a package. -/
def Package.NeededFor (c : Capabilities) : Package → Prop
  | schema | types => True
  | planModifier => c.anyPlanModifiers
  | validator => c.anyValidators
  | kindDefault kind => (c.forKind kind).default
  | kindPlanModifier kind => (c.forKind kind).planModifiers
  | kindValidator kind => (c.forKind kind).validators

theorem mem_insertImport {path q : String} {paths : List String} :
    q ∈ insertImport path paths ↔ q = path ∨ q ∈ paths := by
  induction paths with
  | nil => simp [insertImport]
  | cons p rest ih =>
    unfold insertImport
    split
    · simp
    · split
      · rename_i same
        simp [same]
      · simp only [List.mem_cons, ih, or_left_comm]

theorem insertImport_sorted {path : String} {paths : List String}
    (sorted : paths.Pairwise (· < ·)) : (insertImport path paths).Pairwise (· < ·) := by
  induction paths with
  | nil => exact List.pairwise_singleton _ _
  | cons p rest ih =>
    obtain ⟨first, later⟩ := List.pairwise_cons.mp sorted
    unfold insertImport
    split
    · rename_i below
      refine List.pairwise_cons.mpr ⟨fun q member => ?_, sorted⟩
      rcases List.mem_cons.mp member with rfl | inRest
      · exact below
      · exact String.lt_trans below (first q inRest)
    · split
      · exact sorted
      · rename_i notBelow different
        have above : p < path := Std.lt_of_le_of_ne notBelow (Ne.symm different)
        refine List.pairwise_cons.mpr ⟨fun q member => ?_, ih later⟩
        rcases mem_insertImport.mp member with rfl | inRest
        · exact above
        · exact first q inRest

theorem imports_sorted (c : Capabilities) : (imports c).Pairwise (· < ·) := by
  unfold imports
  induction neededImports c with
  | nil => exact .nil
  | cons path rest ih => exact insertImport_sorted ih

theorem mem_kindImports_iff {c : Capabilities} {kind : ValueKind} {path : String} :
    path ∈ kindImports c kind ↔
      (Package.kindDefault kind).NeededFor c ∧ path = (Package.kindDefault kind).path
      ∨ (Package.kindPlanModifier kind).NeededFor c ∧ path = (Package.kindPlanModifier kind).path
      ∨ (Package.kindValidator kind).NeededFor c ∧ path = (Package.kindValidator kind).path := by
  have inSchema (stem : String) :
      framework ++ "/resource/schema/" ++ stem = framework ++ "/resource/schema" ++ "/" ++ stem := by
    apply String.toList_injective
    simp
  simp only [kindImports, List.mem_append, List.mem_ite_nil_right, List.mem_singleton, or_assoc,
    Package.NeededFor, Package.path, Package.directory, Package.name, ← String.append_assoc, inSchema]

theorem mem_neededImports_iff {c : Capabilities} {path : String} :
    path ∈ neededImports c ↔ ∃ p : Package, p.NeededFor c ∧ path = p.path := by
  have schema : framework ++ "/resource/schema" = Package.schema.path := by
    rw [Package.path, Package.directory, String.append_assoc, String.append_assoc]
    rfl
  have types : framework ++ "/types" = Package.types.path := by
    rw [Package.path, Package.directory, String.append_assoc]
    rfl
  have planModifier :
      framework ++ "/resource/schema/planmodifier" = Package.planModifier.path := by
    rw [Package.path, Package.directory, String.append_assoc, String.append_assoc]
    rfl
  have validator : framework ++ "/schema/validator" = Package.validator.path := by
    rw [Package.path, Package.directory, String.append_assoc, String.append_assoc]
    rfl
  simp only [neededImports, List.mem_append, List.mem_cons, List.mem_flatMap, mem_kindImports_iff,
    List.mem_ite_nil_right, List.not_mem_nil, or_false, schema, types, planModifier, validator]
  constructor
  · rintro ((((same | same) | same) | same) | ⟨kind, _, same | same | same⟩)
    · exact ⟨.schema, trivial, same⟩
    · exact ⟨.types, trivial, same⟩
    · exact ⟨.planModifier, same⟩
    · exact ⟨.validator, same⟩
    · exact ⟨.kindDefault kind, same⟩
    · exact ⟨.kindPlanModifier kind, same⟩
    · exact ⟨.kindValidator kind, same⟩
  · rintro ⟨p, needed, rfl⟩
    cases p with
    | schema => exact Or.inl (Or.inl (Or.inl (Or.inl rfl)))
    | types => exact Or.inl (Or.inl (Or.inl (Or.inr rfl)))
    | planModifier => exact Or.inl (Or.inl (Or.inr ⟨needed, rfl⟩))
    | validator => exact Or.inl (Or.inr ⟨needed, rfl⟩)
    | kindDefault kind => exact Or.inr ⟨kind, kind.mem_all, Or.inl ⟨needed, rfl⟩⟩
    | kindPlanModifier kind => exact Or.inr ⟨kind, kind.mem_all, Or.inr (Or.inl ⟨needed, rfl⟩)⟩
    | kindValidator kind => exact Or.inr ⟨kind, kind.mem_all, Or.inr (Or.inr ⟨needed, rfl⟩)⟩

theorem mem_imports_iff {c : Capabilities} {path : String} :
    path ∈ imports c ↔ ∃ p : Package, p.NeededFor c ∧ path = p.path := by
  rw [← mem_neededImports_iff, imports]
  induction neededImports c with
  | nil => simp
  | cons first rest ih => rw [List.foldr_cons, mem_insertImport, ih, List.mem_cons]

end Go

end ConnectorSchema
