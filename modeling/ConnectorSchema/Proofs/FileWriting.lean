import ConnectorSchema.Generation
import ConnectorSchema.Proofs.FilePlaces

/-!
What writing and removing files changes. Either operation changes one place and leaves all else as it
was (`Changed`), or fails and changes nothing; a file that takes the place of another one comes first
(`writeInstead_cases`).
-/

namespace ConnectorSchema.FileSystem

/-- A file system that differs from another one at one place, where something else or nothing is. -/
structure Changed (fs fs' : FileSystem) (place : List String) (new : Option Tree.Item) : Prop where
  plain : fs'.Plain
  here : fs'.here = fs.here
  itemAt : ∀ p, fs'.itemAt p = if p = place then new else fs.itemAt p

section

variable {fs fs' : FileSystem} {place : List String} {new : Option Tree.Item}

theorem Changed.same (changed : Changed fs fs' place new) : fs'.itemAt place = new := by
  rw [changed.itemAt, if_pos rfl]

theorem Changed.other (changed : Changed fs fs' place new) {p : List String} (different : p ≠ place) :
    fs'.itemAt p = fs.itemAt p := by
  rw [changed.itemAt, if_neg different]

/-- As long as no directory is changed, all of them are there afterwards. -/
theorem Changed.dir (changed : Changed fs fs' place new) (notDir : fs.itemAt place ≠ some .dir)
    {p : List String} (isDir : fs.itemAt p = some .dir) : fs'.itemAt p = some .dir := by
  rw [changed.other fun same => notDir (same ▸ isDir), isDir]

/-- Trees with nothing below them, and no tree at all. -/
def IsLeaf (new : Option Tree) : Prop :=
  ∀ t ∈ new, t.Plain ∧ ∀ below, below ≠ [] → t.itemAt below = none

theorem isLeaf_none : IsLeaf none := fun _ none => Option.noConfusion rfl (heq_of_eq none)

theorem isLeaf_file (bytes : List UInt8) : IsLeaf (some (.file bytes)) := by
  rintro _ ⟨⟩
  refine ⟨.file bytes, fun below deeper => ?_⟩
  obtain ⟨name, rest, rfl⟩ := List.exists_cons_of_ne_nil deeper
  rfl

theorem isLeaf_emptyDir : IsLeaf (some (.dir [])) := by
  rintro _ ⟨⟩
  refine ⟨.dir (by simp) (by simp) .nil, fun below deeper => ?_⟩
  obtain ⟨name, rest, rfl⟩ := List.exists_cons_of_ne_nil deeper
  rfl

/-- Putting something into a directory, or taking something away that is no directory. -/
theorem changed_put (plain : fs.Plain) {parent : List String} {name : String}
    (inDir : fs.itemAt parent = some .dir) (isName : IsEntryName name)
    (notDir : fs.itemAt (parent ++ [name]) ≠ some .dir) {tree : Option Tree} (leaf : IsLeaf tree) :
    Changed fs (fs.put (parent ++ [name]) tree) (parent ++ [name]) (tree.map Tree.item) := by
  have items (p : List String) : (fs.put (parent ++ [name]) tree).itemAt p
      = if p = parent ++ [name] then tree.map Tree.item else fs.itemAt p := by
    refine (Tree.itemAt_update inDir p).trans ?_
    by_cases under : parent ++ [name] <+: p
    · rw [if_pos under]
      obtain ⟨below, rfl⟩ := under
      rw [List.drop_left' (by simp)]
      by_cases here : below = []
      · subst here
        rw [List.append_nil, if_pos rfl]
        cases tree with
        | none => rfl
        | some t => exact Tree.itemAt_nil
      · rw [if_neg (by simpa using here)]
        have gone : fs.itemAt (parent ++ [name] ++ below) = none :=
          Tree.itemAt_append_eq_none notDir here
        rw [gone]
        cases tree with
        | none => rfl
        | some t => exact (leaf t rfl).2 below here
    · rw [if_neg under, if_neg fun (same : p = _) => under (same ▸ List.prefix_refl _)]
      rfl
  have names : ∀ n ∈ parent ++ [name], IsEntryName n := by
    intro n member
    rcases List.mem_append.mp member with inParent | final
    · exact plain.root.isEntryName (Option.ne_none_iff_exists'.mpr ⟨_, inDir⟩) n inParent
    · rwa [List.mem_singleton.mp final]
  refine ⟨⟨plain.root.update (fun t member => (leaf t member).1) names, ?_⟩, rfl, items⟩
  change (fs.put (parent ++ [name]) tree).itemAt fs.here = some .dir
  -- the working directory is not replaced, since it is a directory
  have elsewhere : fs.here ≠ parent ++ [name] := fun same => notDir (same ▸ plain.here)
  rw [items, if_neg elsewhere, plain.here]

end

section

variable {fs : FileSystem} {dir name : String} (plain : fs.Plain) (reaches : fs.Reaches dir)
  (isName : IsEntryName name)

include plain reaches isName

/-- A file is written unless its name is blocked. -/
theorem write_cases (bytes : List UInt8) :
    (fs.Blocked dir name ∧ ∃ e, fs.write (Path.join dir name) bytes = .error e)
      ∨ ¬ fs.Blocked dir name ∧ ∃ fs', fs.write (Path.join dir name) bytes = .ok fs'
        ∧ Changed fs fs' (fs.place dir ++ [name]) (some (.file bytes)) := by
  cases useless : unusable? (Path.join dir name) name with
  | some e =>
    refine Or.inl ⟨Or.inl (by rw [useless]; rfl), e, ?_⟩
    rw [write, locate_unusable plain reaches isName useless]
    rfl
  | none =>
    have located := locate_usable plain reaches isName useless .written
    by_cases isDir : fs.itemAt (fs.place dir ++ [name]) = some .dir
    · obtain ⟨entries, found⟩ := Tree.itemAt_eq_dir isDir
      refine Or.inl ⟨Or.inr isDir, .isDirectory, ?_⟩
      rw [write, located, found]
      rfl
    · have free := not_blocked_iff.mpr ⟨useless, isDir⟩
      refine Or.inr ⟨free, fs.put (fs.place dir ++ [name]) (some (.file bytes)), ?_,
        changed_put plain reaches.passes.resolve_dir isName isDir (isLeaf_file bytes)⟩
      rw [write, located]
      cases found : fs.root.get? (fs.place dir ++ [name]) with
      | none => rfl
      | some t =>
        cases t with
        | file | link => rfl
        | dir entries => exact absurd (by rw [itemAt, Tree.itemAt, found]; rfl) isDir

/-- After removing what is out of date there is nothing, unless its name is blocked. -/
theorem removeStale_cases :
    (fs.Blocked dir name ∧ ∃ e, fs.removeStale (Path.join dir name) = .error e)
      ∨ ¬ fs.Blocked dir name ∧ ∃ fs' events, fs.removeStale (Path.join dir name) = .ok (fs', events)
        ∧ Changed fs fs' (fs.place dir ++ [name]) none := by
  cases useless : unusable? (Path.join dir name) name with
  | some e =>
    refine Or.inl ⟨Or.inl (by rw [useless]; rfl), e, ?_⟩
    have found : e ≠ .notFound := fun same => unusable?_ne_notFound _ _ (same ▸ useless)
    have failed : fs.remove (Path.join dir name) = .error e := by
      rw [remove, locate_unusable plain reaches isName useless]
      rfl
    rw [removeStale, failed]
    cases e <;> first | rfl | exact absurd rfl found
  | none =>
    have located := locate_usable plain reaches isName useless .kept
    by_cases isDir : fs.itemAt (fs.place dir ++ [name]) = some .dir
    · obtain ⟨entries, found⟩ := Tree.itemAt_eq_dir isDir
      refine Or.inl ⟨Or.inr isDir, .isDirectory, ?_⟩
      rw [removeStale, remove, located, found]
      rfl
    · refine Or.inr ⟨not_blocked_iff.mpr ⟨useless, isDir⟩, ?_⟩
      cases found : fs.root.get? (fs.place dir ++ [name]) with
      | none =>
        have nothing : fs.itemAt (fs.place dir ++ [name]) = none := by
          rw [itemAt, Tree.itemAt, found]; rfl
        refine ⟨fs, [], ?_, plain, rfl, fun p => ?_⟩
        · rw [removeStale, remove, located, found]
          rfl
        · split
          · rename_i same
            rw [same, nothing]
          · rfl
      | some t =>
        refine ⟨fs.put (fs.place dir ++ [name]) none, [.removedStale (Path.join dir name)], ?_,
          changed_put plain reaches.passes.resolve_dir isName isDir isLeaf_none⟩
        rw [removeStale, remove, located, found]
        cases t with
        | file | link => rfl
        | dir entries => exact absurd (by rw [itemAt, Tree.itemAt, found]; rfl) isDir

end

section

variable {fs fs' : FileSystem} {dir name other : String} {p : List String} {new : Option Tree.Item}

theorem Changed.reaches (changed : Changed fs fs' p new) (notDir : fs.itemAt p ≠ some .dir)
    (reaches : fs.Reaches dir) : fs'.Reaches dir :=
  reaches.mono changed.here fun _ => changed.dir notDir

/-- Whether a name is blocked depends on nothing but what is there. -/
theorem blocked_congr (here : fs'.here = fs.here)
    (same : fs'.itemAt (fs.place dir ++ [name]) = fs.itemAt (fs.place dir ++ [name])) :
    fs'.Blocked dir name ↔ fs.Blocked dir name := by
  rw [Blocked, Blocked, place_eq_of_here here, same]

theorem Changed.blocked_iff (changed : Changed fs fs' (fs.place dir ++ [name]) new)
    (different : other ≠ name) : fs'.Blocked dir other ↔ fs.Blocked dir other :=
  blocked_congr changed.here (changed.other (by simpa using different))

/-- What comes of writing one file of a directory in place of another one: the first is written unless
its name is blocked, and then the second is removed unless its own is. -/
structure Replaced (fs fs' : FileSystem) (dir name text other : String) : Prop where
  plain : fs'.Plain
  here : fs'.here = fs.here
  itemAt : ∀ p, fs'.itemAt p =
    if fs.Blocked dir name then fs.itemAt p
    else if p = fs.place dir ++ [name] then some (.file (Text.bytesOf text))
    else if p = fs.place dir ++ [other] ∧ ¬ fs.Blocked dir other then none
    else fs.itemAt p

theorem writeInstead_cases (plain : fs.Plain) (reaches : fs.Reaches dir) (isName : IsEntryName name)
    (isOther : IsEntryName other) (different : other ≠ name) (text : String) :
    ∃ fs' events, Replaced fs fs' dir name text other ∧
      (((fs.Blocked dir name ∨ fs.Blocked dir other) ∧ ∃ path e,
          fs.writeInstead (Path.join dir name) text (Path.join dir other)
            = (fs', events, .error (.unwritable path e)))
        ∨ ¬ fs.Blocked dir name ∧ ¬ fs.Blocked dir other
          ∧ fs.writeInstead (Path.join dir name) text (Path.join dir other) = (fs', events, .ok ())) := by
  rcases write_cases plain reaches isName (Text.bytesOf text) with
    ⟨blocked, e, failed⟩ | ⟨free, mid, written, changed⟩
  · refine ⟨fs, [], ⟨plain, rfl, fun p => (if_pos blocked).symm⟩,
      Or.inl ⟨Or.inl blocked, Path.join dir name, e, ?_⟩⟩
    rw [writeInstead, failed]
  have notDir : fs.itemAt (fs.place dir ++ [name]) ≠ some .dir := fun isDir => free (Or.inr isDir)
  -- the other name is blocked after writing exactly if it was before
  have stale := removeStale_cases changed.plain (changed.reaches notDir reaches) isOther
  rw [changed.blocked_iff different, place_eq_of_here changed.here] at stale
  rcases stale with ⟨blocked, e, failed⟩ | ⟨freeOther, fs', events, removed, last⟩
  · refine ⟨mid, [], ⟨changed.plain, changed.here, fun p => ?_⟩,
      Or.inl ⟨Or.inr blocked, Path.join dir other, e, ?_⟩⟩
    · rw [if_neg free, changed.itemAt, if_neg (fun both : _ ∧ ¬ _ => both.2 blocked)]
    · rw [writeInstead, written]
      simp only [failed]
  · refine ⟨fs', events, ⟨last.plain, last.here.trans changed.here, fun p => ?_⟩,
      Or.inr ⟨free, freeOther, ?_⟩⟩
    · have apart : fs.place dir ++ [name] ≠ fs.place dir ++ [other] := by simpa using different.symm
      rw [if_neg free, last.itemAt, changed.itemAt]
      by_cases first : p = fs.place dir ++ [name]
      · rw [if_neg (first ▸ apart), if_pos first, if_pos first]
      · simp only [first, if_false, freeOther, not_false_eq_true, and_true]
    · rw [writeInstead, written]
      simp only [removed]

end

section

variable {fs fs' : FileSystem} {dir name text other : String}

/-- Only the two files are touched. -/
theorem Replaced.others (replaced : Replaced fs fs' dir name text other) {p : List String}
    (notWritten : p ≠ fs.place dir ++ [name]) (notRemoved : p ≠ fs.place dir ++ [other]) :
    fs'.itemAt p = fs.itemAt p := by
  rw [replaced.itemAt, if_neg notWritten, if_neg fun both : p = _ ∧ ¬ _ => notRemoved both.1, ite_self]

theorem Replaced.written (replaced : Replaced fs fs' dir name text other)
    (free : ¬ fs.Blocked dir name) :
    fs'.itemAt (fs.place dir ++ [name]) = some (.file (Text.bytesOf text)) := by
  rw [replaced.itemAt, if_neg free, if_pos rfl]

theorem Replaced.removed (replaced : Replaced fs fs' dir name text other) (different : other ≠ name)
    (free : ¬ fs.Blocked dir name) (freeOther : ¬ fs.Blocked dir other) :
    fs'.itemAt (fs.place dir ++ [other]) = none := by
  rw [replaced.itemAt, if_neg free, if_neg (by simpa using different), if_pos ⟨rfl, freeOther⟩]

/-- No directory is touched. -/
theorem Replaced.directories (replaced : Replaced fs fs' dir name text other) {p : List String}
    (isDir : fs.itemAt p = some .dir) : fs'.itemAt p = some .dir := by
  rw [replaced.itemAt]
  split
  · exact isDir
  · rename_i free
    have notWritten : p ≠ fs.place dir ++ [name] := fun same => free (Or.inr (same ▸ isDir))
    have notRemoved : ¬ (p = fs.place dir ++ [other] ∧ ¬ fs.Blocked dir other) :=
      fun both => both.2 (Or.inr (both.1 ▸ isDir))
    rw [if_neg notWritten, if_neg notRemoved, isDir]

theorem Replaced.reaches (replaced : Replaced fs fs' dir name text other) {way : String}
    (reaches : fs.Reaches way) : fs'.Reaches way :=
  reaches.mono replaced.here fun _ => replaced.directories

/-- Where two file systems agree about the two files, replacing one by the other does the same to both
of them. -/
theorem Replaced.congr {after after' : FileSystem} (replaced : Replaced fs after dir name text other)
    (replaced' : Replaced fs' after' dir name text other) (here : fs'.here = fs.here)
    (sameName : fs'.itemAt (fs.place dir ++ [name]) = fs.itemAt (fs.place dir ++ [name]))
    (sameOther : fs'.itemAt (fs.place dir ++ [other]) = fs.itemAt (fs.place dir ++ [other]))
    {p : List String} (same : fs'.itemAt p = fs.itemAt p) : after'.itemAt p = after.itemAt p := by
  rw [replaced.itemAt, replaced'.itemAt, place_eq_of_here here, same]
  simp only [blocked_congr here sameName, blocked_congr here sameOther]

end

end ConnectorSchema.FileSystem
