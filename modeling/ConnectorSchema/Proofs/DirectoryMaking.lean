import Mathlib.Data.List.TakeWhile
import ConnectorSchema.Proofs.FileWriting

/-!
Making a directory with all directories it lies in. What was there stays as it was, and what is new are
directories on the way (`Grown`). Where the way is there, nothing is done; where it could not be made,
another try does nothing more (`createDirs_again`).
-/

namespace ConnectorSchema.FileSystem

/-- A file system with more directories than another one, all of them on a way. -/
structure Grown (fs fs' : FileSystem) (start names : List String) : Prop where
  plain : fs'.Plain
  here : fs'.here = fs.here
  itemAt : ∀ p, fs'.itemAt p = fs.itemAt p
    ∨ fs.itemAt p = none ∧ fs'.itemAt p = some .dir ∧ OnWay start names p

section

variable {fs mid fs' : FileSystem} {start names part : List String}

theorem Grown.refl (plain : fs.Plain) : Grown fs fs start names := ⟨plain, rfl, fun _ => Or.inl rfl⟩

theorem Grown.trans (first : Grown fs mid start names) (second : Grown mid fs' start names) :
    Grown fs fs' start names := by
  refine ⟨second.plain, second.here.trans first.here, fun p => ?_⟩
  rcases second.itemAt p with same | ⟨nothing, isDir, onWay⟩
  · rw [same]
    exact first.itemAt p
  · rcases first.itemAt p with same | ⟨_, wasDir, _⟩
    · exact Or.inr ⟨same ▸ nothing, isDir, onWay⟩
    · rw [nothing] at wasDir
      contradiction

/-- What was there is still there. -/
theorem Grown.present (grown : Grown fs fs' start names) {p : List String} (present : fs.itemAt p ≠ none) :
    fs'.itemAt p = fs.itemAt p :=
  (grown.itemAt p).resolve_right fun new => present new.1

theorem Grown.dir (grown : Grown fs fs' start names) {p : List String} (isDir : fs.itemAt p = some .dir) :
    fs'.itemAt p = some .dir := by
  rw [grown.present (isDir ▸ Option.some_ne_none _), isDir]

theorem OnWay.longer (isPart : part.filter isPlainName <+: names.filter isPlainName)
    {p : List String} (onWay : OnWay start part p) : OnWay start names p := by
  obtain ⟨before, onPart, rfl⟩ := onWay
  exact ⟨before, onPart.trans isPart, rfl⟩

theorem Grown.longer (isPart : part.filter isPlainName <+: names.filter isPlainName)
    (grown : Grown fs fs' start part) : Grown fs fs' start names :=
  ⟨grown.plain, grown.here, fun p =>
    (grown.itemAt p).imp_right fun ⟨nothing, isDir, onWay⟩ => ⟨nothing, isDir, onWay.longer isPart⟩⟩

/-- One new directory at the end of the way. -/
theorem Grown.of_changed (nothing : fs.itemAt (resolve start names) = none)
    (changed : Changed fs fs' (resolve start names) (some .dir)) : Grown fs fs' start names := by
  refine ⟨changed.plain, changed.here, fun p => ?_⟩
  by_cases final : p = resolve start names
  · subst final
    exact Or.inr ⟨nothing, changed.same, _, List.prefix_refl _, (resolve_filter _ _).symm⟩
  · exact Or.inl (changed.other final)

theorem Passes.of_part {root : Tree} (passes : Passes root start names)
    (isPart : part <+: names.filter isPlainName) : Passes root start part := by
  obtain ⟨after, split⟩ := isPart
  rw [← passes_filter, ← split] at passes
  exact (passes_append.mp passes).1

end

/-! ## One directory -/

theorem filter_trimNames (names : List String) :
    (trimNames names).filter isPlainName = names.filter isPlainName := by
  have split : names.reverse.takeWhile (· = "") ++ names.reverse.dropWhile (· = "") = names.reverse :=
    List.takeWhile_append_dropWhile
  have empty : ((names.reverse.takeWhile (· = "")).reverse).filter isPlainName = [] := by
    refine List.filter_eq_nil_iff.mpr fun name member => ?_
    have isEmpty : name = "" := by
      simpa using List.mem_takeWhile_imp (List.mem_reverse.mp member)
    simp [isPlainName, isEmpty]
  have whole : names = trimNames names ++ (names.reverse.takeWhile (· = "")).reverse := by
    rw [trimNames, ← List.reverse_append, split, List.reverse_reverse]
  conv_rhs => rw [whole, List.filter_append, empty, List.append_nil]

/-- Where names start. -/
def start (fs : FileSystem) (absolute : Bool) : List String := if absolute then [] else fs.here

theorem Plain.start {fs : FileSystem} (plain : fs.Plain) (absolute : Bool) :
    fs.itemAt (fs.start absolute) = some .dir := by
  cases absolute
  · exact plain.here
  · exact plain.root_dir

section

variable {fs : FileSystem} (absolute : Bool) {names : List String} (plain : fs.Plain)
  (noSlash : ∀ name ∈ names, '/' ∉ name.toList)

include plain noSlash

theorem namesDir_iff : fs.namesDir absolute names ↔ Passes fs.root (fs.start absolute) names := by
  rcases walk_cases plain.root noSlash (plain.start absolute)
    (LastName.noConfusion : LastName.followed ≠ .written) with
    ⟨passes, arrived⟩ | ⟨stops, ⟨e, failed⟩ | ⟨before, name, rfl, _, _, _, notDir, arrived⟩⟩
  · refine iff_of_true ?_ passes
    have located : fs.locateNames .followed absolute names = .ok _ := follow_of_arrived arrived
    rw [namesDir, located]
    exact Tree.any_isDir_iff.mpr passes.resolve_dir
  · refine iff_of_false ?_ stops
    have located : fs.locateNames .followed absolute names = .error e := follow_of_failed failed
    rw [namesDir, located]
    exact Bool.false_ne_true
  · refine iff_of_false ?_ stops
    have located : fs.locateNames .followed absolute (before ++ [name]) = .ok _ :=
      follow_of_arrived arrived
    rw [namesDir, located]
    exact fun isDir => notDir (Tree.any_isDir_iff.mp isDir)

/-- A directory is made if there is nothing but the directories on the way to it. -/
theorem makeDir_cases :
    (∃ e, fs.makeDir absolute names = .error e)
      ∨ ∃ fs', fs.makeDir absolute names = .ok fs'
        ∧ Passes fs.root (fs.start absolute) (names.filter isPlainName).dropLast
        ∧ fs.itemAt (resolve (fs.start absolute) names) = none
        ∧ Changed fs fs' (resolve (fs.start absolute) names) (some .dir)
        ∧ Passes fs'.root (fs.start absolute) names := by
  have trimmedNoSlash : ∀ name ∈ trimNames names, '/' ∉ name.toList := by
    intro name member
    refine noSlash name (List.mem_reverse.mp ?_)
    exact (List.dropWhile_suffix _).subset (List.mem_reverse.mp member)
  rcases walk_cases plain.root trimmedNoSlash (plain.start absolute)
    (LastName.noConfusion : LastName.kept ≠ .written) with
    ⟨passes, arrived⟩ | ⟨_, ⟨e, failed⟩ | ⟨before, name, split, through, isName, short, notDir, arrived⟩⟩
  · obtain ⟨entries, found⟩ := Tree.itemAt_eq_dir passes.resolve_dir
    have located : fs.locateNames .kept absolute (trimNames names) = .ok _ := follow_of_arrived arrived
    refine Or.inl ⟨.alreadyExists, ?_⟩
    rw [makeDir, located, found]
    rfl
  · have located : fs.locateNames .kept absolute (trimNames names) = .error e := follow_of_failed failed
    refine Or.inl ⟨e, ?_⟩
    rw [makeDir, located]
    rfl
  · have located : fs.locateNames .kept absolute (trimNames names) = .ok _ := follow_of_arrived arrived
    cases found : fs.root.get? (resolve (fs.start absolute) before ++ [name]) with
    | some t =>
      refine Or.inl ⟨.alreadyExists, ?_⟩
      rw [makeDir, located, found]
      rfl
    | none =>
      -- the walk stops at the last name, which is where the directory goes
      have plainNames : names.filter isPlainName = before.filter isPlainName ++ [name] := by
        rw [← filter_trimNames, split, List.filter_append,
          List.filter_cons_of_pos (isPlainName_of_isEntryName isName), List.filter_nil]
      have leads : resolve (fs.start absolute) names = resolve (fs.start absolute) before ++ [name] := by
        rw [← resolve_filter, plainNames, resolve_append, resolve_filter, resolve_cons, resolve_nil,
          enter_of_isEntryName isName]
      have changed := changed_put plain through.resolve_dir isName notDir isLeaf_emptyDir
      rw [← leads] at changed
      refine Or.inr ⟨_, ?_, ?_, ?_, changed, ?_⟩
      · rw [makeDir, located, found, leads]
        rfl
      · rw [plainNames, List.dropLast_concat, passes_filter]
        exact through
      · rw [leads, itemAt, Tree.itemAt, found]
        rfl
      · have kept : ∀ p, fs.itemAt p = some .dir → _ :=
          fun p isDir => changed.dir (leads ▸ notDir) isDir
        rw [← passes_filter, plainNames, passes_append, passes_filter, resolve_filter]
        refine ⟨through.mono kept, kept _ through.resolve_dir, short, ?_⟩
        rw [enter_of_isEntryName isName, ← leads]
        exact changed.same

theorem settleDir_of_passes (passes : Passes fs.root (fs.start absolute) names) :
    fs.settleDir absolute names = (fs, .ok ()) := by
  rcases makeDir_cases absolute plain noSlash with ⟨e, failed⟩ | ⟨_, _, _, nothing, _⟩
  · rw [settleDir, failed]
    simp only [(namesDir_iff absolute plain noSlash).mpr passes, if_true]
  · have isDir : fs.itemAt (resolve (fs.start absolute) names) = some .dir := passes.resolve_dir
    rw [nothing] at isDir
    contradiction

theorem settleDir_cases :
    (∃ fs', fs.settleDir absolute names = (fs', .ok ()) ∧ Grown fs fs' (fs.start absolute) names
        ∧ Passes fs'.root (fs.start absolute) names)
      ∨ ¬ Passes fs.root (fs.start absolute) names ∧ ∃ e, fs.makeDir absolute names = .error e
        ∧ fs.settleDir absolute names = (fs, .error e) := by
  by_cases passes : Passes fs.root (fs.start absolute) names
  · exact Or.inl ⟨fs, settleDir_of_passes absolute plain noSlash passes, .refl plain, passes⟩
  rcases makeDir_cases absolute plain noSlash with ⟨e, failed⟩ | ⟨fs', made, _, nothing, changed, through⟩
  · refine Or.inr ⟨passes, e, failed, ?_⟩
    have notDir : ¬ fs.namesDir absolute names := fun isDir =>
      passes ((namesDir_iff absolute plain noSlash).mp isDir)
    rw [settleDir, failed]
    simp only [if_neg notDir]
  · refine Or.inl ⟨fs', ?_, .of_changed nothing changed, through⟩
    rw [settleDir, made]

/-- Without the directories above, nothing is made. -/
theorem settleDir_of_stops
    (stops : ¬ Passes fs.root (fs.start absolute) (names.filter isPlainName).dropLast) :
    ∃ e, fs.settleDir absolute names = (fs, .error e) := by
  rcases makeDir_cases absolute plain noSlash with ⟨e, failed⟩ | ⟨_, _, through, _⟩
  · have notDir : ¬ fs.namesDir absolute names := fun isDir =>
      stops (((namesDir_iff absolute plain noSlash).mp isDir).of_part (List.dropLast_prefix _))
    refine ⟨e, ?_⟩
    rw [settleDir, failed]
    simp only [if_neg notDir]
  · exact absurd through stops

end

/-! ## All of a way -/

/-- The directories that a way comes through before its end are a way themselves. -/
theorem parents_step {names rest : List String} {parent : String}
    (up : parent :: rest = (names.filter isPlainName).reverse.tail) :
    (parent :: rest).reverse = (names.filter isPlainName).dropLast
      ∧ (parent :: rest).reverse.filter isPlainName = (parent :: rest).reverse
      ∧ rest = ((parent :: rest).reverse.filter isPlainName).reverse.tail := by
  have front : (parent :: rest).reverse = (names.filter isPlainName).dropLast := by
    rw [up, List.tail_reverse, List.reverse_reverse]
  have allPlain : (parent :: rest).reverse.filter isPlainName = (parent :: rest).reverse := by
    refine List.filter_eq_self.mpr fun name member => ?_
    rw [front] at member
    exact (List.mem_filter.mp (List.dropLast_subset _ member)).2
  exact ⟨front, allPlain, by rw [allPlain, List.reverse_reverse, List.tail_cons]⟩

theorem makeDirs_cons_of_ne {fs : FileSystem} {absolute : Bool} {names rest : List String}
    {parent : String} (other : fs.makeDir absolute names ≠ .error .notFound) :
    fs.makeDirs absolute names (parent :: rest) = fs.settleDir absolute names := by
  rw [makeDirs]
  split
  · exact absurd ‹_› other
  · rfl

theorem makeDirs_cons_of_made {fs mid : FileSystem} {absolute : Bool} {names rest : List String}
    {parent : String} (missing : fs.makeDir absolute names = .error .notFound)
    (made : fs.makeDirs absolute (parent :: rest).reverse rest = (mid, .ok ())) :
    fs.makeDirs absolute names (parent :: rest) = mid.settleDir absolute names := by
  rw [makeDirs, missing]
  simp only [made]

theorem makeDirs_cons_of_unmade {fs mid : FileSystem} {absolute : Bool} {names rest : List String}
    {parent : String} {e : FileError} (missing : fs.makeDir absolute names = .error .notFound)
    (failed : fs.makeDirs absolute (parent :: rest).reverse rest = (mid, .error e)) :
    fs.makeDirs absolute names (parent :: rest) = (mid, .error e) := by
  rw [makeDirs, missing]
  simp only [failed]

/-- Directories that are on a way that is there already are nothing new. -/
theorem Grown.eq_of_passes {fs fs' : FileSystem} {start names : List String} (plain : fs.Plain)
    (grown : Grown fs fs' start names) (passes : Passes fs.root start names) : fs' = fs := by
  refine grown.plain.ext plain grown.here fun p => ?_
  rcases grown.itemAt p with same | ⟨nothing, _, onWay⟩
  · exact same
  · have isDir : fs.itemAt p = some .dir := passes.dir_of_onWay onWay
    rw [nothing] at isDir
    contradiction

/-- What can come of making all of a way: it is there, or it cannot be made, and then another try
does nothing. -/
def Settles (fs : FileSystem) (absolute : Bool) (names parents : List String) : Prop :=
  ∃ fs', Grown fs fs' (fs.start absolute) names ∧
    ((fs.makeDirs absolute names parents = (fs', .ok ()) ∧ Passes fs'.root (fs.start absolute) names)
      ∨ ¬ Passes fs'.root (fs.start absolute) names
        ∧ (∃ e, fs.makeDirs absolute names parents = (fs', .error e))
        ∧ ∃ e, fs'.makeDirs absolute names parents = (fs', .error e))

section

variable {fs mid : FileSystem} (absolute : Bool) {names parents rest : List String} {parent : String}
  (noSlash : ∀ name ∈ names, '/' ∉ name.toList)

include noSlash

/-- Without anything to be made before, one directory is all there is to make. -/
theorem settles_of_single (plain : fs.Plain)
    (single : fs.makeDirs absolute names parents = fs.settleDir absolute names) :
    Settles fs absolute names parents := by
  rcases settleDir_cases absolute plain noSlash with
    ⟨fs', made, grown, passes⟩ | ⟨stops, e, _, failed⟩
  · exact ⟨fs', grown, Or.inl ⟨single.trans made, passes⟩⟩
  · exact ⟨fs, .refl plain, Or.inr ⟨stops, ⟨e, single.trans failed⟩, e, single.trans failed⟩⟩

/-- Where the directories above are there, the directory itself is tried once more. -/
theorem settles_of_made (plain : mid.Plain) (grown : Grown fs mid (fs.start absolute) names)
    (through : Passes mid.root (fs.start absolute) (parent :: rest).reverse)
    (last : fs.makeDirs absolute names (parent :: rest) = mid.settleDir absolute names)
    (above : Settles mid absolute (parent :: rest).reverse rest) :
    Settles fs absolute names (parent :: rest) := by
  have sameStart : mid.start absolute = fs.start absolute := by rw [start, start, grown.here]
  rcases settleDir_cases absolute plain noSlash with
    ⟨fs', settled, more, passes⟩ | ⟨stops, e, unmade, failed⟩
  · rw [sameStart] at more passes
    exact ⟨fs', grown.trans more, Or.inl ⟨last.trans settled, passes⟩⟩
  rw [sameStart] at stops
  refine ⟨mid, grown, Or.inr ⟨stops, ⟨e, last.trans failed⟩, e, ?_⟩⟩
  by_cases stillMissing : e = .notFound
  case neg =>
    have other : mid.makeDir absolute names ≠ .error .notFound := by
      rw [unmade]
      exact fun same => stillMissing (Except.error.inj same)
    rw [makeDirs_cons_of_ne other, failed]
  subst stillMissing
  -- what had to be made before is there now, so making it changes nothing
  obtain ⟨_, more, ⟨done, _⟩ | ⟨blocked, _⟩⟩ := above
  · rw [sameStart] at more
    rw [more.eq_of_passes plain through] at done
    rw [makeDirs_cons_of_made unmade done, failed]
  · rw [sameStart] at blocked more
    exact absurd (through.mono fun _ => more.dir) blocked

/-- Where the directories above cannot be made, neither can the directory itself. -/
theorem settles_of_unmade {e e' : FileError} (plain : mid.Plain)
    (grown : Grown fs mid (fs.start absolute) names)
    (stops : ¬ Passes mid.root (fs.start absolute) (names.filter isPlainName).dropLast)
    (failed : fs.makeDirs absolute names (parent :: rest) = (mid, .error e))
    (again : mid.makeDirs absolute (parent :: rest).reverse rest = (mid, .error e')) :
    Settles fs absolute names (parent :: rest) := by
  have sameStart : mid.start absolute = fs.start absolute := by rw [start, start, grown.here]
  have longer : ¬ Passes mid.root (fs.start absolute) names := fun passes =>
    stops (passes.of_part (List.dropLast_prefix _))
  refine ⟨mid, grown, Or.inr ⟨longer, ⟨e, failed⟩, ?_⟩⟩
  by_cases stillMissing : mid.makeDir absolute names = .error .notFound
  · exact ⟨e', makeDirs_cons_of_unmade stillMissing again⟩
  · rw [makeDirs_cons_of_ne stillMissing]
    exact settleDir_of_stops absolute plain noSlash (sameStart.symm ▸ stops)

/-- By induction on the directories above: they come first, then the directory itself is tried once
more. -/
theorem makeDirs_settles (plain : fs.Plain) (up : parents = (names.filter isPlainName).reverse.tail) :
    Settles fs absolute names parents := by
  induction parents generalizing names fs with
  | nil => exact settles_of_single absolute noSlash plain rfl
  | cons parent rest ih =>
    by_cases missing : fs.makeDir absolute names = .error .notFound
    case neg => exact settles_of_single absolute noSlash plain (makeDirs_cons_of_ne missing)
    obtain ⟨front, allPlain, upRest⟩ := parents_step up
    have isPart : (parent :: rest).reverse.filter isPlainName <+: names.filter isPlainName := by
      rw [allPlain, front]
      exact List.dropLast_prefix _
    have partNoSlash : ∀ name ∈ (parent :: rest).reverse, '/' ∉ name.toList := fun name member =>
      noSlash name (List.mem_of_mem_filter (isPart.subset (allPlain.symm ▸ member)))
    obtain ⟨mid, grown, ⟨made, through⟩ | ⟨stops, ⟨e, failed⟩, e', again⟩⟩ := ih partNoSlash plain upRest
    · exact settles_of_made absolute noSlash grown.plain (grown.longer isPart) through
        (makeDirs_cons_of_made missing made) (ih partNoSlash grown.plain upRest)
    · exact settles_of_unmade absolute noSlash grown.plain (grown.longer isPart) (front ▸ stops)
        (makeDirs_cons_of_unmade missing failed) again

end

theorem createDirs_usable (fs : FileSystem) {dir : String} (notEmpty : dir ≠ "")
    (noNul : '\x00' ∉ dir.toList) (fits : ¬ maxPathBytes < dir.utf8ByteSize) :
    fs.createDirs dir = fs.makeDirs (Path.isAbsolute dir) (Path.components dir)
      ((Path.components dir).filter isPlainName).reverse.tail := by
  rw [createDirs, if_neg notEmpty, if_neg noNul, if_neg fits]

/-- The directory of a path is there in the end, or it cannot be made, and then another try does
nothing. -/
theorem createDirs_cases {fs : FileSystem} (plain : fs.Plain) (dir : String) :
    ∃ fs', Grown fs fs' (fs.startOf dir) (Path.components dir) ∧
      ((fs.createDirs dir = (fs', .ok ()) ∧ fs'.Reaches dir)
        ∨ (∃ e, fs.createDirs dir = (fs', .error e)) ∧ ∃ e, fs'.createDirs dir = (fs', .error e)) := by
  by_cases empty : dir = ""
  · subst empty
    exact ⟨fs, .refl plain, Or.inl ⟨rfl, plain.here, by decide, plain.here⟩⟩
  by_cases nul : '\x00' ∈ dir.toList
  · have failed : fs.createDirs dir = (fs, .error .nulInName) := by
      rw [createDirs, if_neg empty, if_pos nul]
    exact ⟨fs, .refl plain, Or.inr ⟨⟨_, failed⟩, _, failed⟩⟩
  by_cases long : maxPathBytes < dir.utf8ByteSize
  · have failed : fs.createDirs dir = (fs, .error .nameTooLong) := by
      rw [createDirs, if_neg empty, if_neg nul, if_pos long]
    exact ⟨fs, .refl plain, Or.inr ⟨⟨_, failed⟩, _, failed⟩⟩
  have noSlash : ∀ name ∈ Path.components dir, '/' ∉ name.toList := fun _ =>
    Path.noSlash_of_mem_components
  obtain ⟨fs', grown, outcome⟩ := makeDirs_settles (Path.isAbsolute dir) noSlash plain rfl
  refine ⟨fs', grown, ?_⟩
  rw [createDirs_usable _ empty nul long, createDirs_usable _ empty nul long]
  refine outcome.imp (fun ⟨made, passes⟩ => ⟨made, ⟨?_⟩⟩) And.right
  rw [startOf, grown.here]
  exact passes

/-- A directory that was made once is not made again as long as it can be reached. -/
theorem createDirs_of_made {fs fs' other : FileSystem} {dir : String}
    (made : fs.createDirs dir = (fs', .ok ())) (plain : other.Plain) (reaches : other.Reaches dir) :
    other.createDirs dir = (other, .ok ()) := by
  by_cases empty : dir = ""
  · rw [createDirs, if_pos empty]
  by_cases nul : '\x00' ∈ dir.toList
  · rw [createDirs, if_neg empty, if_pos nul] at made
    cases made
  by_cases long : maxPathBytes < dir.utf8ByteSize
  · rw [createDirs, if_neg empty, if_neg nul, if_pos long] at made
    cases made
  have noSlash : ∀ name ∈ Path.components dir, '/' ∉ name.toList := fun _ =>
    Path.noSlash_of_mem_components
  rw [createDirs_usable _ empty nul long]
  obtain ⟨_, grown, ⟨again, _⟩ | ⟨stops, _⟩⟩ :=
    makeDirs_settles (Path.isAbsolute dir) noSlash plain rfl
  · rw [again, grown.eq_of_passes plain reaches.passes]
  · exact absurd (reaches.passes.mono fun _ => grown.dir) stops

end ConnectorSchema.FileSystem
