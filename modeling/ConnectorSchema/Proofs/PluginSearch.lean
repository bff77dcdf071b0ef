import Mathlib.Data.List.Nodup
import ConnectorSchema.Discovery
import ConnectorSchema.Proofs.ByteOrder
import ConnectorSchema.Proofs.DiskTree
import ConnectorSchema.Proofs.OutputFiles

/-!
What the search for connectors finds. Whatever lies in a directory of plugins, a connector is listed for
each directory with a document in it and for nothing else (`FileSystem.mem_connectors_iff`), in the order
of the bytes of the names; so no two of all connectors share a file.
-/

namespace ConnectorSchema

namespace Connector

theorem ofPlugin?_eq_some {kind : EntityKind} {dir : String} {e : String × Tree} {c : Connector}
    (found : Connector.ofPlugin? kind dir e = some c) :
    c.kind = kind ∧ c.code = e.1 ∧ c.path = Path.join (Path.join dir e.1) Path.documentName
      ∧ ∃ files bytes, e.2 = .dir files
        ∧ Tree.child? Path.documentName files = some (.file bytes) := by
  unfold ofPlugin? at found
  split at found
  · rename_i files isDir
    split at found
    · rename_i bytes document
      cases found
      exact ⟨rfl, rfl, rfl, files, bytes, isDir, document⟩
    · contradiction
  · contradiction

theorem ofPlugin?_dir {kind : EntityKind} {dir code : String} {files : List (String × Tree)}
    {bytes : List UInt8} (document : Tree.child? Path.documentName files = some (.file bytes)) :
    Connector.ofPlugin? kind dir (code, .dir files)
      = some ⟨kind, code, Path.join (Path.join dir code) Path.documentName⟩ := by
  simp only [ofPlugin?, document]

theorem insert_perm (c : Connector) (others : List Connector) : (c.insert others).Perm (c :: others) := by
  induction others with
  | nil => exact .refl _
  | cons d rest ih =>
    rw [insert]
    split
    · exact .refl _
    · exact (ih.cons d).trans (.swap c d rest)

theorem foldr_insert_perm (found : List Connector) : (found.foldr insert []).Perm found := by
  induction found with
  | nil => exact .refl _
  | cons c rest ih => exact (insert_perm c _).trans (ih.cons c)

/-- No connector stands behind one with a larger code. -/
def InOrder (found : List Connector) : Prop := found.Pairwise fun c d => ¬ d.code < c.code

theorem InOrder.insert {others : List Connector} (order : InOrder others) (c : Connector) :
    InOrder (c.insert others) := by
  induction others with
  | nil => exact List.pairwise_singleton _ _
  | cons d rest ih =>
    obtain ⟨first, later⟩ := List.pairwise_cons.mp order
    rw [Connector.insert]
    split
    · rename_i before
      refine List.pairwise_cons.mpr ⟨fun e member => ?_, order⟩
      rcases List.mem_cons.mp member with rfl | inRest
      · exact String.lt_asymm before
      · exact fun smaller => first e inRest (String.lt_trans smaller before)
    · rename_i notBefore
      refine List.pairwise_cons.mpr ⟨fun e member => ?_, ih later⟩
      rcases List.mem_cons.mp ((insert_perm c rest).mem_iff.mp member) with rfl | inRest
      · exact notBefore
      · exact first e inRest

theorem inOrder_foldr_insert (found : List Connector) : InOrder (found.foldr insert []) := by
  induction found with
  | nil => exact .nil
  | cons c rest ih => exact ih.insert c

/-- What tells connectors apart. -/
def key (c : Connector) : EntityKind × String := (c.kind, c.code)

end Connector

namespace FileSystem

/-- Connectors are the entries of a directory of plugins, in order. -/
theorem connectors_eq {fs : FileSystem} {backend : String} {kind : EntityKind}
    {entries : List (String × Tree)} (found : fs.node? (Path.plugins backend kind) = some (.dir entries)) :
    fs.connectors backend kind
      = (entries.filterMap (Connector.ofPlugin? kind (Path.plugins backend kind))).foldr Connector.insert
        [] := by
  simp only [connectors, found]

theorem connectors_eq_nil {fs : FileSystem} {backend : String} {kind : EntityKind}
    (missing : ∀ entries, fs.node? (Path.plugins backend kind) ≠ some (.dir entries)) :
    fs.connectors backend kind = [] := by
  cases found : fs.node? (Path.plugins backend kind) with
  | none => simp only [connectors, found]
  | some t =>
    cases t with
    | dir entries => exact absurd found (missing entries)
    | file | link => simp only [connectors, found]

end FileSystem

/-- The names of a path that count: doubled slashes and dots make no difference. -/
def Path.names (path : String) : List String := (components path).filter FileSystem.isPlainName

theorem Path.names_join (dir : String) {name : String} (isName : IsEntryName name) :
    names (join dir name) = names dir ++ [name] := by
  obtain ⟨before, split, same⟩ := components_join dir isName.noSlash
  rw [names, split, List.filter_append, same,
    List.filter_cons_of_pos (FileSystem.isPlainName_of_isEntryName isName), List.filter_nil, names]

theorem Path.names_foldl_join (dir : String) {place : List String}
    (isName : ∀ name ∈ place, IsEntryName name) : names (place.foldl join dir) = names dir ++ place := by
  induction place generalizing dir with
  | nil => rw [List.foldl_nil, List.append_nil]
  | cons name rest ih =>
    obtain ⟨first, later⟩ := List.forall_mem_cons.mp isName
    rw [List.foldl_cons, ih _ later, names_join dir first, List.append_assoc, List.singleton_append]

namespace FileSystem

section

variable {fs : FileSystem} {backend : String} {kind : EntityKind} {c : Connector}
  {entries : List (String × Tree)} (onDisk : fs.root.OnDisk)

include onDisk

/-- The connectors of a kind are the directories among its plugins that hold a document. -/
theorem mem_connectors_iff (found : fs.node? (Path.plugins backend kind) = some (.dir entries)) :
    c ∈ fs.connectors backend kind ↔ c.kind = kind
      ∧ c.path = Path.join (Path.join (Path.plugins backend kind) c.code) Path.documentName
      ∧ ∃ files bytes, (c.code, Tree.dir files) ∈ entries
        ∧ (Path.documentName, Tree.file bytes) ∈ files := by
  rw [connectors_eq found, (Connector.foldr_insert_perm _).mem_iff, List.mem_filterMap]
  constructor
  · rintro ⟨e, inDir, isConnector⟩
    obtain ⟨kinds, code, path, files, bytes, isDir, document⟩ := Connector.ofPlugin?_eq_some isConnector
    exact ⟨kinds, by rw [path, code], files, bytes, by rwa [code, ← isDir], Tree.mem_of_child? document⟩
  · rintro ⟨kinds, path, files, bytes, inDir, document⟩
    have plugins := onDisk_of_node? onDisk found
    have document := (plugins.child (plugins.child?_of_mem inDir)).2.child?_of_mem document
    exact ⟨_, inDir, by rw [Connector.ofPlugin?_dir document, ← path, ← kinds]⟩

theorem name_of_mem_connectors (member : c ∈ fs.connectors backend kind) :
    c.kind = kind ∧ IsEntryName c.code := by
  by_cases present : ∃ entries, fs.node? (Path.plugins backend kind) = some (.dir entries)
  case neg =>
    rw [connectors_eq_nil (not_exists.mp present)] at member
    contradiction
  obtain ⟨entries, found⟩ := present
  obtain ⟨kinds, _, files, _, inDir, _⟩ := (mem_connectors_iff onDisk found).mp member
  have plugins := onDisk_of_node? onDisk found
  exact ⟨kinds, (plugins.child (plugins.child?_of_mem inDir)).1⟩

/-- Connectors are listed by the bytes of their codes, each code once. -/
theorem connectors_increase (backend : String) (kind : EntityKind) :
    (fs.connectors backend kind).Pairwise (·.code < ·.code) := by
  by_cases present : ∃ entries, fs.node? (Path.plugins backend kind) = some (.dir entries)
  case neg =>
    rw [connectors_eq_nil (not_exists.mp present)]
    exact .nil
  obtain ⟨entries, found⟩ := present
  rw [connectors_eq found]
  have distinct : (entries.filterMap (Connector.ofPlugin? kind (Path.plugins backend kind))).Pairwise
      (·.code ≠ ·.code) := by
    cases onDisk_of_node? onDisk found with
    | dir _ _ distinct =>
      refine distinct.filterMap _ fun e e' different c isC d isD => ?_
      rw [(Connector.ofPlugin?_eq_some isC).2.1, (Connector.ofPlugin?_eq_some isD).2.1]
      exact different
  have apart := ((Connector.foldr_insert_perm _).pairwise_iff fun different => Ne.symm different).mpr
    distinct
  exact (List.Pairwise.and (Connector.inOrder_foldr_insert _) apart).imp fun ⟨notAfter, different⟩ =>
    Std.lt_of_le_of_ne notAfter different

/-- A file below the plugins is listed exactly where it is a document and lies in a plugin. -/
theorem exists_connector_iff {place : List String} {bytes : List UInt8}
    (found : fs.node? (Path.plugins backend kind) = some (.dir entries))
    (file : (Tree.dir entries).get? place = some (.file bytes)) :
    (∃ c ∈ fs.connectors backend kind, c.path = place.foldl Path.join (Path.plugins backend kind))
      ↔ ∃ code, place = [code, Path.documentName] := by
  have names := ((onDisk_of_node? onDisk found).of_get? file).1
  constructor
  · rintro ⟨c, member, here⟩
    have isCode := (name_of_mem_connectors onDisk member).2
    have path := ((mem_connectors_iff onDisk found).mp member).2.1
    have same := congrArg Path.names (here.symm.trans path)
    rw [Path.names_foldl_join _ names, Path.names_join _ (by decide), Path.names_join _ isCode,
      List.append_assoc] at same
    exact ⟨c.code, List.append_cancel_left same⟩
  · rintro ⟨code, rfl⟩
    obtain ⟨files, inDir, document⟩ := (onDisk_of_node? onDisk found).get?_pair_iff.mp file
    exact ⟨⟨kind, code, _⟩,
      (mem_connectors_iff onDisk found).mpr ⟨rfl, rfl, files, bytes, inDir, document⟩, rfl⟩

/-- Of all connectors that are found, no two have the same kind and code. -/
theorem connectorsOf_distinct (backend : String) {kinds : List EntityKind} (distinct : kinds.Nodup) :
    (fs.connectorsOf backend kinds).Pairwise (·.key ≠ ·.key) := by
  refine List.pairwise_flatMap.mpr ⟨fun kind _ => ?_, distinct.imp ?_⟩
  · refine (connectors_increase onDisk backend kind).imp fun {c d} before same => ?_
    have code : c.code = d.code := congrArg Prod.snd same
    exact String.lt_irrefl _ (code ▸ before)
  · intro kind kind' different c isC d isD same
    have kinds : c.kind = d.kind := congrArg Prod.fst same
    rw [(name_of_mem_connectors onDisk isC).1, (name_of_mem_connectors onDisk isD).1] at kinds
    exact different kinds

end

end FileSystem

/-- The paths of a connector's two files. -/
def Connector.files (dir : String) (c : Connector) : List String :=
  [Path.output dir c.kind c.code, Path.draft (Path.output dir c.kind c.code)]

theorem Connector.names_files (dir : String) {c : Connector} (noSlash : '/' ∉ c.code.toList) :
    (c.files dir).map Path.names
      = (Path.fileNames c.kind c.code).map fun name => Path.names dir ++ [name] := by
  rw [files, Path.draft_output, Path.output_eq]
  simp only [Path.fileNames, List.map_cons, List.map_nil,
    Path.names_join dir (Path.isEntryName_targetName noSlash),
    Path.names_join dir (Path.isEntryName_draftName noSlash)]

/-- Connectors with kinds and codes of their own have files of their own. -/
theorem Connector.nodup_files (dir : String) {found : List Connector}
    (noSlash : ∀ c ∈ found, '/' ∉ c.code.toList) (distinct : found.Pairwise (·.key ≠ ·.key)) :
    ((found.flatMap (files dir)).map Path.names).Nodup := by
  rw [List.map_flatMap]
  refine List.pairwise_flatMap.mpr ⟨fun c member => ?_, ?_⟩
  · rw [names_files dir (noSlash c member)]
    simp [Path.fileNames, Path.targetName_ne_draftName]
  · refine distinct.imp_of_mem fun {c d} isC isD different p inC q inD same => ?_
    rw [names_files dir (noSlash c isC)] at inC
    rw [names_files dir (noSlash d isD)] at inD
    obtain ⟨name, mine, rfl⟩ := List.mem_map.mp inC
    obtain ⟨other, its, rfl⟩ := List.mem_map.mp inD
    obtain rfl : name = other := by simpa using same
    exact Path.disjoint_fileNames different mine its

/-- What the search for the connectors of a kind finds. -/
structure FileSystem.Finds (fs : FileSystem) (backend : String) (kind : EntityKind) : Prop where
  /-- One for each directory of a plugin that has a document. Links are neither. -/
  listed : ∀ entries, fs.node? (Path.plugins backend kind) = some (.dir entries) → ∀ c,
    c ∈ fs.connectors backend kind ↔ c.kind = kind
      ∧ c.path = Path.join (Path.join (Path.plugins backend kind) c.code) Path.documentName
      ∧ ∃ files bytes, (c.code, Tree.dir files) ∈ entries
        ∧ (Path.documentName, Tree.file bytes) ∈ files
  /-- Nothing for any other file, however deep it lies. -/
  nothingElse : ∀ entries, fs.node? (Path.plugins backend kind) = some (.dir entries) →
    ∀ place bytes, (Tree.dir entries).get? place = some (.file bytes) →
      ((∃ c ∈ fs.connectors backend kind, c.path = place.foldl Path.join (Path.plugins backend kind))
        ↔ ∃ code, place = [code, Path.documentName])
  increasing : (fs.connectors backend kind).Pairwise fun c d => Text.bytesOf c.code < Text.bytesOf d.code
  missing : (∀ entries, fs.node? (Path.plugins backend kind) ≠ some (.dir entries)) →
    fs.connectors backend kind = []

/-- The search finds each connector once and nothing else, whatever the tree is, and all connectors of
some kinds have different files. -/
theorem FileSystem.finds_connectors {fs : FileSystem} (onDisk : fs.root.OnDisk) (backend : String) :
    (∀ kind, fs.Finds backend kind)
      ∧ ∀ kinds, fs.connectorsOf backend kinds = (kinds.map (fs.connectors backend)).flatten
        ∧ (kinds.Nodup → (fs.connectorsOf backend kinds).Pairwise (·.key ≠ ·.key)
          ∧ ∀ dir, (((fs.connectorsOf backend kinds).flatMap (Connector.files dir)).map Path.names).Nodup)
    := by
  refine ⟨fun kind => ⟨fun entries found c => ?_, fun entries found place bytes => ?_, ?_, ?_⟩,
    fun kinds => ⟨?_, fun distinct => ?_⟩⟩
  · exact mem_connectors_iff onDisk found
  · exact exists_connector_iff onDisk found
  · exact (connectors_increase onDisk backend kind).imp Text.bytesOf_lt
  · exact connectors_eq_nil
  · exact List.flatMap_def
  · have apart := connectorsOf_distinct onDisk backend distinct
    refine ⟨apart, fun dir => Connector.nodup_files dir (fun c member => ?_) apart⟩
    obtain ⟨kind, _, inKind⟩ := List.mem_flatMap.mp member
    exact (name_of_mem_connectors onDisk inKind).2.noSlash

/-- A link to a plugin, a link to a document and documents at other depths are no connectors. -/
theorem FileSystem.finds_connectors_links :
    let document := Path.documentName
    let linked : Tree := .dir [(document, .link "../a"), ("d", .dir [(document, .file [])])]
    let plugins : Tree :=
      .dir [("b", .link "a"), ("a", .dir [(document, .file [])]), ("c", linked), (document, .file [])]
    let fs : FileSystem := ⟨.dir [("app", .dir [("sources", .dir [("plugins", plugins)])])], []⟩
    fs.root.OnDisk
      ∧ fs.connectorsOf "." [.transform, .source]
        = [⟨.source, "a", "./app/sources/plugins/a/configuration.latest.json"⟩]
      ∧ fs.connectors "." .transform = []
      ∧ ((fs.connectorsOf "." [.transform, .source]).flatMap (Connector.files "out")).Nodup := by
  intro document linked plugins fs
  have held : (Tree.dir [(document, .file [])]).OnDisk := .single (by decide) (.file [])
  have inLinked : linked.OnDisk := by
    refine .dir (by decide) ?_ (by decide)
    simpa using And.intro (Tree.OnDisk.link "../a") held
  have inPlugins : plugins.OnDisk := by
    refine .dir (by decide) ?_ (by decide)
    simp only [List.forall_mem_cons]
    exact ⟨.link "a", held, inLinked, .file [], List.forall_mem_nil _⟩
  have onDisk : fs.root.OnDisk :=
    .single (by decide) (.single (by decide) (.single (by decide) inPlugins))
  obtain ⟨finds, all⟩ := FileSystem.finds_connectors onDisk "."
  have missing : (fs.node? (Path.plugins "." .transform)).isSome = false := by decide +kernel
  obtain ⟨_, apart⟩ := all [.transform, .source]
  refine ⟨onDisk, by decide +kernel, (finds .transform).missing fun entries found => ?_,
    List.Nodup.of_map _ ((apart (by decide)).2 "out")⟩
  rw [found] at missing
  contradiction

end ConnectorSchema
