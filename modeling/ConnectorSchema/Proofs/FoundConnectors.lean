import ConnectorSchema.Generation
import ConnectorSchema.Proofs.PluginSearch

/-!
What is known about connectors that were found. Each has a document in a directory of its own (`Found`),
and it is read the same as long as no directory is gone and the document stays what it is.
-/

namespace ConnectorSchema

/-! ## What is found -/

namespace FileSystem

/-- A connector of a backend with its directory and its document. -/
structure Found (fs : FileSystem) (backend : String) (c : Connector) : Prop where
  path : c.path
    = Path.join (Path.join (Path.plugins backend c.kind) c.code) Path.documentName
  isName : IsEntryName c.code
  plugins : fs.Reaches (Path.plugins backend c.kind)
  plugin : fs.itemAt (fs.place (Path.plugins backend c.kind) ++ [c.code]) = some .dir
  document : ∃ bytes, fs.itemAt (fs.place (Path.plugins backend c.kind) ++ [c.code, Path.documentName])
    = some (.file bytes)

section

variable {fs : FileSystem} {backend path : String} {kind : EntityKind} {c : Connector}
  {entries : List (String × Tree)}

theorem reaches_of_node? (plain : fs.Plain) (found : fs.node? path = some (.dir entries)) :
    fs.Reaches path ∧ fs.root.get? (fs.place path) = some (.dir entries) := by
  have noSlash : ∀ name ∈ Path.components path, '/' ∉ name.toList := fun _ =>
    Path.noSlash_of_mem_components
  cases located : fs.locate .followed path with
  | error e =>
    rw [node?, located] at found
    contradiction
  | ok location =>
    rw [node?, located] at found
    have followed := locateNames_of_locate located
    rcases walk_cases plain.root noSlash (plain.start_dir path)
        (LastName.noConfusion : LastName.followed ≠ .written) with
      ⟨passes, arrived⟩ | ⟨_, ⟨e, failed⟩ | ⟨before, name, split, _, _, _, notDir, arrived⟩⟩
    · obtain rfl := Except.ok.inj (followed.symm.trans (follow_of_arrived arrived))
      exact ⟨⟨passes⟩, found⟩
    · have failure : fs.locateNames .followed _ _ = .error e := follow_of_failed failed
      rw [followed] at failure
      contradiction
    · obtain rfl := Except.ok.inj (followed.symm.trans (follow_of_arrived arrived))
      have isDir : fs.root.get? (resolve (fs.startOf path) before ++ [name]) = some (.dir entries) := found
      exact absurd (by rw [Tree.itemAt, isDir]; rfl) notDir

theorem found_of_mem_connectors (plain : fs.Plain) (member : c ∈ fs.connectors backend kind) :
    c.kind = kind ∧ fs.Found backend c := by
  by_cases present : ∃ entries, fs.node? (Path.plugins backend kind) = some (.dir entries)
  case neg =>
    rw [connectors_eq_nil (not_exists.mp present)] at member
    contradiction
  obtain ⟨entries, found⟩ := present
  have onDisk := plain.root.onDisk
  obtain ⟨rfl, path, files, bytes, inDir, document⟩ := (mem_connectors_iff onDisk found).mp member
  obtain ⟨reaches, there⟩ := reaches_of_node? plain found
  have inPlugins := (onDisk_of_node? onDisk found).child?_of_mem inDir
  obtain ⟨isName, onDisk⟩ := (onDisk_of_node? onDisk found).child inPlugins
  have below (rest : List String) : fs.itemAt (fs.place (Path.plugins backend c.kind) ++ c.code :: rest)
      = (Tree.dir files).itemAt rest := by
    rw [itemAt, Tree.itemAt, Tree.get?_append, there, Option.bind_some, Tree.get?_dir, inPlugins]
    rfl
  refine ⟨rfl, path, isName, reaches, ?_, bytes, ?_⟩
  · rw [below, Tree.itemAt_nil]
    rfl
  · rw [below, Tree.itemAt_dir, onDisk.child?_of_mem document]
    exact Tree.itemAt_nil

theorem found_of_mem_connectorsOf (plain : fs.Plain) {kinds : List EntityKind}
    (member : c ∈ fs.connectorsOf backend kinds) : fs.Found backend c := by
  obtain ⟨kind, _, inKind⟩ := List.mem_flatMap.mp member
  exact (found_of_mem_connectors plain inKind).2

end

/-! ## What is read -/

section

variable {fs fs' : FileSystem} {backend name other : String} {c : Connector}

/-- Nothing is read below a directory whose name is too long. -/
theorem readBytes_long (plain : fs.Plain) (dir : String) (isName : IsEntryName name)
    (long : ¬ name.utf8ByteSize ≤ maxNameBytes) (isOther : IsEntryName other) :
    ∃ e, fs.readBytes (Path.join (Path.join dir name) other) = .error e := by
  cases located : fs.locate .followed (Path.join (Path.join dir name) other) with
  | error e =>
    refine ⟨e, ?_⟩
    rw [readBytes, located]
    rfl
  | ok location =>
    have followed := locateNames_of_locate located
    have inner := Path.components_join dir isName.noSlash
    obtain ⟨before, split, same⟩ := Path.components_join (Path.join dir name) isOther.noSlash
    -- whatever is located has come through the long name
    have inBefore : name ∈ before := by
      obtain ⟨outer, splitOuter, _⟩ := inner
      have inFilter : name ∈ (Path.components (Path.join dir name)).filter isPlainName := by
        rw [splitOuter]
        exact List.mem_filter.mpr ⟨by simp, isPlainName_of_isEntryName isName⟩
      exact List.mem_of_mem_filter (same.symm ▸ inFilter)
    have noSlash : ∀ n ∈ Path.components (Path.join (Path.join dir name) other), '/' ∉ n.toList :=
      fun _ => Path.noSlash_of_mem_components
    rcases walk_cases plain.root noSlash (plain.start_dir _)
        (LastName.noConfusion : LastName.followed ≠ .written) with
      ⟨passes, _⟩ | ⟨_, ⟨e, failed⟩ | ⟨before', final, split', through, _⟩⟩
    · rw [split] at passes
      exact absurd (passes.short (List.mem_append_left _ inBefore)) long
    · have failure : fs.locateNames .followed _ _ = .error e := follow_of_failed failed
      rw [followed] at failure
      contradiction
    · rw [split] at split'
      obtain ⟨rfl, _⟩ := List.append_inj' split' rfl
      exact absurd (through.short inBefore) long

theorem load_of_readBytes_error {e : FileError} {path : String} (failed : fs.readBytes path = .error e) :
    ∃ problem, fs.load path = .error problem := by
  rw [load, readText, failed]
  exact ⟨_, rfl⟩

/-- As long as no directory is gone and the document of a connector is the same, it is read the same. -/
theorem Found.load_eq (found : fs.Found backend c) (plain : fs.Plain) (plain' : fs'.Plain)
    (here : fs'.here = fs.here) (dirs : ∀ p, fs.itemAt p = some .dir → fs'.itemAt p = some .dir)
    (document : fs'.itemAt (fs.place (Path.plugins backend c.kind) ++ [c.code, Path.documentName])
      = fs.itemAt (fs.place (Path.plugins backend c.kind) ++ [c.code, Path.documentName])) :
    (fs'.load c.path).toOption = (fs.load c.path).toOption := by
  have isDocument : IsEntryName Path.documentName := by decide
  rw [found.path]
  by_cases short : c.code.utf8ByteSize ≤ maxNameBytes
  case neg =>
    obtain ⟨_, failed⟩ := readBytes_long plain (Path.plugins backend c.kind) found.isName short isDocument
    obtain ⟨_, failed'⟩ := readBytes_long plain' (Path.plugins backend c.kind) found.isName short isDocument
    obtain ⟨_, unread⟩ := load_of_readBytes_error failed
    obtain ⟨_, unread'⟩ := load_of_readBytes_error failed'
    rw [unread, unread']
    rfl
  have reaches := found.plugins.join found.isName short found.plugin
  have reaches' := reaches.mono here dirs
  have sameBytes : fs'.readBytes (Path.join (Path.join (Path.plugins backend c.kind) c.code)
        Path.documentName)
      = fs.readBytes (Path.join (Path.join (Path.plugins backend c.kind) c.code)
        Path.documentName) := by
    rw [readBytes_join plain reaches isDocument, readBytes_join plain' reaches' isDocument,
      place_eq_of_here here, place_join found.isName, List.append_assoc, List.singleton_append, document]
  rw [load, load, readText, readText, sameBytes]

end

end FileSystem

end ConnectorSchema
