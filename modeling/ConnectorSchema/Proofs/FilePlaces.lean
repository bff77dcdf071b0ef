import ConnectorSchema.Proofs.Walking

/-!
Files of a directory that a path leads to. Where there is no link, each of them stands at the
directory's own place with its name added, and whether it can be written or removed depends on its
path and on what is there (`Blocked`), and on nothing else.
-/

namespace ConnectorSchema

/-! ## Paths -/

namespace Path

theorem parts_ne_nil (cs : List Char) : parts cs ≠ [] := by
  cases cs with
  | nil => simp [parts]
  | cons c rest =>
    rw [parts]
    split
    · simp
    · cases parts rest <;> simp

theorem parts_append_slash (cs ds : List Char) : parts (cs ++ '/' :: ds) = parts cs ++ parts ds := by
  induction cs with
  | nil => rfl
  | cons c rest ih =>
    rw [List.cons_append, parts, parts, ih]
    split
    · rfl
    · cases found : parts rest with
      | nil => exact absurd found (parts_ne_nil rest)
      | cons part others => rfl

theorem parts_of_noSlash {cs : List Char} (noSlash : '/' ∉ cs) : parts cs = [cs] := by
  induction cs with
  | nil => rfl
  | cons c rest ih =>
    obtain ⟨other, later⟩ := List.ne_and_not_mem_of_not_mem_cons noSlash
    rw [parts, if_neg other.symm, ih later]

theorem noSlash_of_mem_parts {cs part : List Char} (member : part ∈ parts cs) : '/' ∉ part := by
  induction cs generalizing part with
  | nil =>
    rw [parts, List.mem_singleton] at member
    simp [member]
  | cons c rest ih =>
    rw [parts] at member
    split at member
    · rcases List.mem_cons.mp member with rfl | later
      · simp
      · exact ih later
    · rename_i other
      cases found : parts rest with
      | nil => exact absurd found (parts_ne_nil rest)
      | cons first others =>
        rw [found] at member
        rcases List.mem_cons.mp member with rfl | later
        · have inRest := ih (found ▸ List.mem_cons_self)
          simp [Ne.symm other, inRest]
        · exact ih (found ▸ List.mem_cons_of_mem _ later)

theorem noSlash_of_mem_components {path name : String} (member : name ∈ components path) :
    '/' ∉ name.toList := by
  obtain ⟨part, inPath, rfl⟩ := List.mem_map.mp member
  rw [String.toList_ofList]
  exact noSlash_of_mem_parts inPath

/-- The names of a path to something in a directory: its own name comes last, and those before it are
the names of the directory, but for empty ones. -/
theorem components_join (dir : String) {name : String} (noSlash : '/' ∉ name.toList) :
    ∃ before, components (join dir name) = before ++ [name]
      ∧ before.filter FileSystem.isPlainName = (components dir).filter FileSystem.isPlainName := by
  have single : (parts name.toList).map String.ofList = [name] := by
    rw [parts_of_noSlash noSlash, List.map_singleton, String.ofList_toList]
  unfold join
  split
  · rename_i empty
    subst empty
    exact ⟨[], single, rfl⟩
  · split
    · rename_i slash
      obtain ⟨front, split⟩ := List.getLast?_eq_some_iff.mp slash
      refine ⟨(parts front).map String.ofList, ?_, ?_⟩
      · rw [components, String.toList_append, split, List.append_assoc, List.singleton_append,
          parts_append_slash, List.map_append, single]
      · rw [components, split, parts_append_slash, List.map_append, List.filter_append]
        exact (List.append_nil _).symm
    · refine ⟨components dir, ?_, rfl⟩
      have slash : "/".toList = ['/'] := rfl
      rw [components, String.toList_append, String.toList_append, slash, List.append_assoc,
        List.singleton_append, parts_append_slash, List.map_append, single, components]

theorem isAbsolute_join (dir : String) {name : String} (noSlash : '/' ∉ name.toList) :
    isAbsolute (join dir name) = isAbsolute dir := by
  unfold join
  split
  · rename_i empty
    subst empty
    cases split : name.toList with
    | nil => simp [isAbsolute, split]
    | cons c rest =>
      rw [split] at noSlash
      have other := (List.ne_and_not_mem_of_not_mem_cons noSlash).1
      simp [isAbsolute, split, Ne.symm other]
  · rename_i some
    obtain ⟨c, rest, split⟩ : ∃ c rest, dir.toList = c :: rest :=
      List.exists_cons_of_ne_nil (by simpa using some)
    split <;> simp [isAbsolute, split]

theorem join_ne_empty (dir : String) {name : String} (notEmpty : name ≠ "") : join dir name ≠ "" := by
  unfold join
  split
  · exact notEmpty
  · split <;> simp [notEmpty]

end Path

/-! ## Places of paths -/

namespace FileSystem

def itemAt (fs : FileSystem) (place : List String) : Option Tree.Item := fs.root.itemAt place

/-- A file system without links, whose working directory is there. -/
structure Plain (fs : FileSystem) : Prop where
  root : fs.root.Plain
  here : fs.itemAt fs.here = some .dir

/-- Where a path starts. -/
def startOf (fs : FileSystem) (path : String) : List String :=
  if Path.isAbsolute path then [] else fs.here

/-- The place that a path leads to if nothing is a link. -/
def place (fs : FileSystem) (path : String) : List String :=
  resolve (fs.startOf path) (Path.components path)

/-- Whether a path leads through directories to a directory. -/
structure Reaches (fs : FileSystem) (dir : String) : Prop where
  passes : Passes fs.root (fs.startOf dir) (Path.components dir)

/-- What makes a path to `name` in a directory useless, whatever there is. -/
def unusable? (path name : String) : Option FileError :=
  if '\x00' ∈ path.toList then some .nulInName
  else if maxPathBytes < path.utf8ByteSize then some .nameTooLong
  else if maxNameBytes < name.utf8ByteSize then some .nameTooLong
  else none

/-- Whether nothing can be written at `name` in a directory: its path is useless, or there is a
directory. -/
def Blocked (fs : FileSystem) (dir name : String) : Prop :=
  (unusable? (Path.join dir name) name).isSome ∨ fs.itemAt (fs.place dir ++ [name]) = some .dir

instance (fs : FileSystem) (dir name : String) : Decidable (fs.Blocked dir name) :=
  inferInstanceAs (Decidable (_ ∨ _))

theorem not_blocked_iff {fs : FileSystem} {dir name : String} :
    ¬ fs.Blocked dir name ↔ unusable? (Path.join dir name) name = none
      ∧ fs.itemAt (fs.place dir ++ [name]) ≠ some .dir := by
  rw [Blocked, not_or, Option.not_isSome_iff_eq_none]

/-- That nothing is there is not what makes a path useless. -/
theorem unusable?_ne_notFound (path name : String) : unusable? path name ≠ some .notFound := by
  unfold unusable?
  split_ifs <;> simp

theorem Plain.root_dir {fs : FileSystem} (plain : fs.Plain) : fs.itemAt [] = some .dir := by
  have here := plain.here
  cases split : fs.here with
  | nil => rwa [split] at here
  | cons name rest =>
    have present : fs.root.itemAt ([] ++ name :: rest) ≠ none := by
      rw [List.nil_append, ← split]
      exact Option.ne_none_iff_exists'.mpr ⟨_, here⟩
    exact Tree.itemAt_eq_dir_of_append present

theorem Plain.start_dir {fs : FileSystem} (plain : fs.Plain) (path : String) :
    fs.itemAt (fs.startOf path) = some .dir := by
  unfold startOf
  split
  · exact plain.root_dir
  · exact plain.here

/-- File systems with the same things at the same places are the same. -/
theorem Plain.ext {fs fs' : FileSystem} (plain : fs.Plain) (plain' : fs'.Plain) (here : fs.here = fs'.here)
    (same : ∀ p, fs.itemAt p = fs'.itemAt p) : fs = fs' := by
  have root : fs.root = fs'.root := plain.root.ext plain'.root same
  cases fs
  cases fs'
  exact congr (congrArg FileSystem.mk root) here

theorem place_eq_of_here {fs fs' : FileSystem} (here : fs'.here = fs.here) (path : String) :
    fs'.place path = fs.place path := by
  rw [place, place, startOf, startOf, here]

/-- A directory that could be reached still can, as long as no directory is gone. -/
theorem Reaches.mono {fs fs' : FileSystem} {dir : String} (reaches : fs.Reaches dir)
    (here : fs'.here = fs.here)
    (dirs : ∀ p, fs.itemAt p = some .dir → fs'.itemAt p = some .dir) : fs'.Reaches dir := by
  constructor
  rw [startOf, here]
  exact reaches.passes.mono dirs

theorem follow_of_arrived {root : Tree} {last : LastName} {links : Nat} {place names : List String}
    {location : Location} (arrived : walk root last place names = .arrived location) :
    follow root last links place names = .ok location := by
  rw [follow, arrived]

theorem follow_of_failed {root : Tree} {last : LastName} {links : Nat} {place names : List String}
    {e : FileError} (failed : walk root last place names = .failed e) :
    follow root last links place names = .error e := by
  rw [follow, failed]

section

variable {fs : FileSystem} {dir name : String}

theorem startOf_join (noSlash : '/' ∉ name.toList) : fs.startOf (Path.join dir name) = fs.startOf dir := by
  rw [startOf, startOf, Path.isAbsolute_join dir noSlash]

theorem place_join (isName : IsEntryName name) :
    fs.place (Path.join dir name) = fs.place dir ++ [name] := by
  obtain ⟨before, split, same⟩ := Path.components_join dir isName.noSlash
  rw [place, place, startOf_join isName.noSlash, split, resolve_append, ← resolve_filter _ before,
    same, resolve_filter, resolve_cons, resolve_nil, enter_of_isEntryName isName]

/-- In a directory that can be reached, only the last name matters. -/
theorem walk_join (plain : fs.Plain) (reaches : fs.Reaches dir) (isName : IsEntryName name)
    (last : LastName) :
    walk fs.root last (fs.startOf (Path.join dir name)) (Path.components (Path.join dir name))
      = walk fs.root last (fs.place dir) [name] := by
  obtain ⟨before, split, same⟩ := Path.components_join dir isName.noSlash
  have through : Passes fs.root (fs.startOf dir) before := by
    rw [← passes_filter, same, passes_filter]
    exact reaches.passes
  have noSlash : ∀ n ∈ before, '/' ∉ n.toList := fun n member =>
    Path.noSlash_of_mem_components (split ▸ List.mem_append_left _ member)
  rw [startOf_join isName.noSlash, split, walk_append plain.root noSlash through
    (Or.inr ⟨name, List.mem_singleton_self _, isName.notEmpty⟩), place,
    ← resolve_filter _ before, same, resolve_filter]

theorem locate_unusable (plain : fs.Plain) (reaches : fs.Reaches dir) (isName : IsEntryName name)
    {e : FileError} (useless : unusable? (Path.join dir name) name = some e) (last : LastName) :
    fs.locate last (Path.join dir name) = .error e := by
  rw [locate, if_neg (Path.join_ne_empty dir isName.notEmpty)]
  unfold unusable? at useless
  split at useless
  · rename_i nul
    rw [if_pos nul, ← Option.some.inj useless]
  rename_i noNul
  rw [if_neg noNul]
  split at useless
  · rename_i long
    rw [if_pos long, ← Option.some.inj useless]
  rename_i fits
  rw [if_neg fits]
  split at useless
  · rename_i long
    rw [← Option.some.inj useless]
    refine follow_of_failed ((walk_join plain reaches isName last).trans ?_)
    have goesOn : ¬ Stops last [] := by simp [Stops, onlySlashesFollow]
    rcases walk_cons_cases plain.root isName goesOn with ⟨_, failed⟩ | ⟨short, _⟩
    · exact failed
    · omega
  · contradiction

theorem locate_usable (plain : fs.Plain) (reaches : fs.Reaches dir) (isName : IsEntryName name)
    (usable : unusable? (Path.join dir name) name = none) (last : LastName) :
    fs.locate last (Path.join dir name)
      = .ok ⟨fs.place dir ++ [name], fs.root.get? (fs.place dir ++ [name])⟩ := by
  unfold unusable? at usable
  split at usable
  · contradiction
  rename_i noNul
  split at usable
  · contradiction
  rename_i fits
  split at usable
  · contradiction
  rename_i short
  rw [locate, if_neg (Path.join_ne_empty dir isName.notEmpty), if_neg noNul, if_neg fits]
  refine follow_of_arrived ((walk_join plain reaches isName last).trans ?_)
  exact walk_name plain.root isName (Nat.not_lt.mp short)

/-- A directory in a directory that can be reached can be reached, unless its name is too long. -/
theorem Reaches.join (reaches : fs.Reaches dir) (isName : IsEntryName name)
    (short : name.utf8ByteSize ≤ maxNameBytes)
    (isDir : fs.itemAt (fs.place dir ++ [name]) = some .dir) : fs.Reaches (Path.join dir name) := by
  obtain ⟨before, split, same⟩ := Path.components_join dir isName.noSlash
  have through : Passes fs.root (fs.startOf dir) before := by
    rw [← passes_filter, same, passes_filter]
    exact reaches.passes
  have leads : resolve (fs.startOf dir) before = fs.place dir := by
    rw [place, ← resolve_filter _ before, same, resolve_filter]
  constructor
  rw [startOf_join isName.noSlash, split, passes_append]
  refine ⟨through, through.resolve_dir, short, ?_⟩
  rw [leads, enter_of_isEntryName isName]
  exact isDir

theorem locateNames_of_locate {path : String} {last : LastName} {location : Location}
    (located : fs.locate last path = .ok location) :
    fs.locateNames last (Path.isAbsolute path) (Path.components path) = .ok location := by
  unfold locate at located
  split at located
  · contradiction
  split at located
  · contradiction
  split at located
  · contradiction
  exact located

/-- What reading a file gives, by what is in its place. -/
def bytesOfItem : Option Tree.Item → Except FileError (List UInt8)
  | some (.file bytes) => .ok bytes
  | some .dir => .error .isDirectory
  | some (.link _) => .error .tooManyLinks
  | none => .error .notFound

theorem readBytes_join (plain : fs.Plain) (reaches : fs.Reaches dir) (isName : IsEntryName name) :
    fs.readBytes (Path.join dir name)
      = (unusable? (Path.join dir name) name).elim
          (bytesOfItem (fs.itemAt (fs.place dir ++ [name]))) .error := by
  cases useless : unusable? (Path.join dir name) name with
  | some e =>
    rw [readBytes, locate_unusable plain reaches isName useless]
    rfl
  | none =>
    rw [readBytes, locate_usable plain reaches isName useless, itemAt, Tree.itemAt, Option.elim_none]
    cases fs.root.get? (fs.place dir ++ [name]) with
    | none => rfl
    | some t => cases t <;> rfl

/-- A path leads to a place, and nothing is there. -/
def Absent (fs : FileSystem) (path : String) : Prop := ∃ place, fs.locate .kept path = .ok ⟨place, none⟩

theorem absent_join (plain : fs.Plain) (reaches : fs.Reaches dir) (isName : IsEntryName name)
    (usable : unusable? (Path.join dir name) name = none)
    (nothing : fs.itemAt (fs.place dir ++ [name]) = none) : fs.Absent (Path.join dir name) := by
  have noTree : fs.root.get? (fs.place dir ++ [name]) = none := Option.map_eq_none_iff.mp nothing
  exact ⟨_, noTree ▸ locate_usable plain reaches isName usable .kept⟩

end

end FileSystem

end ConnectorSchema
