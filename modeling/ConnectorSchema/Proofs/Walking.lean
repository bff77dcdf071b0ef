import ConnectorSchema.Proofs.TreePlaces

/-!
Following paths where there is no link. The names alone then give the place that a path leads to
(`resolve`), and a path can be followed as long as every place on the way is a directory (`Passes`).
-/

namespace ConnectorSchema.FileSystem

/-- Where one more name leads. -/
def enter (place : List String) (name : String) : List String :=
  if name = "" ∨ name = "." then place
  else if name = ".." then place.dropLast
  else place ++ [name]

/-- Where names lead if nothing is a link. -/
def resolve (place names : List String) : List String := names.foldl enter place

/-- Every place that the names come through, the first and the last included, is a directory, and no
name is too long. -/
def Passes (root : Tree) : (place names : List String) → Prop
  | place, [] => root.itemAt place = some .dir
  | place, name :: rest =>
    root.itemAt place = some .dir ∧ name.utf8ByteSize ≤ maxNameBytes ∧ Passes root (enter place name) rest

/-- A place that the names come through. -/
def OnWay (place names other : List String) : Prop :=
  ∃ before, before <+: names.filter isPlainName ∧ other = resolve place before

section

variable {root : Tree} {place names more : List String} {name : String} {last : LastName}

@[simp] theorem resolve_nil : resolve place [] = place := rfl

@[simp] theorem resolve_cons : resolve place (name :: names) = resolve (enter place name) names := rfl

theorem resolve_append : resolve place (names ++ more) = resolve (resolve place names) more :=
  List.foldl_append

theorem enter_of_not_isPlainName (trivial : ¬ isPlainName name) : enter place name = place := by
  refine if_pos ?_
  simpa [isPlainName, or_iff_not_imp_left] using trivial

theorem enter_of_isEntryName (isName : IsEntryName name) : enter place name = place ++ [name] := by
  rw [enter, if_neg (not_or.mpr ⟨isName.notEmpty, isName.notHere⟩), if_neg isName.notUp]

/-- Staying and going up lead from directories to directories. -/
theorem enter_dir (start : root.itemAt place = some .dir)
    (special : name = "" ∨ name = "." ∨ name = "..") :
    root.itemAt (enter place name) = some .dir := by
  rcases special with rfl | rfl | rfl
  · exact start
  · exact start
  · change root.itemAt place.dropLast = some .dir
    rcases List.eq_nil_or_concat place with rfl | ⟨parent, final, rfl⟩
    · exact start
    · rw [List.concat_eq_append] at start ⊢
      rw [List.dropLast_concat]
      exact Tree.itemAt_eq_dir_of_append (by rw [start]; exact Option.some_ne_none _)

theorem isPlainName_of_isEntryName (isName : IsEntryName name) : isPlainName name := by
  simp [isPlainName, isName.notEmpty, isName.notHere]

theorem resolve_filter (place names : List String) :
    resolve place (names.filter isPlainName) = resolve place names := by
  induction names generalizing place with
  | nil => rfl
  | cons name rest ih =>
    by_cases plain : isPlainName name
    · rw [List.filter_cons_of_pos plain, resolve_cons, resolve_cons, ih]
    · rw [List.filter_cons_of_neg plain, resolve_cons, enter_of_not_isPlainName plain, ih]

/-- Without going up, names lead only further. -/
theorem prefix_resolve (noUp : ".." ∉ names) : place <+: resolve place names := by
  induction names generalizing place with
  | nil => exact List.prefix_refl _
  | cons name rest ih =>
    obtain ⟨notUp, later⟩ := List.ne_and_not_mem_of_not_mem_cons noUp
    refine List.IsPrefix.trans ?_ (ih later)
    rw [enter, if_neg notUp.symm]
    split
    · exact List.prefix_refl _
    · exact List.prefix_append _ _

theorem OnWay.prefix_of_noUp {other : List String} (onWay : OnWay place names other)
    (noUp : ".." ∉ names) : other <+: resolve place names := by
  obtain ⟨before, ⟨after, split⟩, rfl⟩ := onWay
  rw [← resolve_filter place names, ← split, resolve_append]
  have inNames : ∀ name ∈ after, name ∈ names := fun name member =>
    List.mem_of_mem_filter (split ▸ List.mem_append_right before member)
  exact prefix_resolve fun up => noUp (inNames _ up)

theorem Passes.dir (passes : Passes root place names) : root.itemAt place = some .dir := by
  cases names with
  | nil => exact passes
  | cons => exact passes.1

theorem passes_append : Passes root place (names ++ more)
    ↔ Passes root place names ∧ Passes root (resolve place names) more := by
  induction names generalizing place with
  | nil => exact ⟨fun passes => ⟨passes.dir, passes⟩, And.right⟩
  | cons name rest ih =>
    rw [List.cons_append, Passes, Passes, ih, resolve_cons, and_assoc, and_assoc]

theorem passes_filter :
    Passes root place (names.filter isPlainName) ↔ Passes root place names := by
  induction names generalizing place with
  | nil => rfl
  | cons name rest ih =>
    by_cases plain : isPlainName name
    · rw [List.filter_cons_of_pos plain, Passes, Passes, ih]
    · have short : name.utf8ByteSize ≤ maxNameBytes := by
        simp only [isPlainName, Bool.and_eq_true, decide_eq_true_eq, not_and_or, not_not] at plain
        rcases plain with rfl | rfl <;> decide
      rw [List.filter_cons_of_neg plain, Passes, enter_of_not_isPlainName plain, ih]
      exact ⟨fun passes => ⟨passes.dir, short, passes⟩, fun passes => passes.2.2⟩

theorem Passes.resolve_dir (passes : Passes root place names) :
    root.itemAt (resolve place names) = some .dir := by
  rw [← List.append_nil names] at passes
  exact (passes_append.mp passes).2

/-- Where all of the way is passed, each place on it is a directory. -/
theorem Passes.dir_of_onWay (passes : Passes root place names) {other : List String}
    (onWay : OnWay place names other) : root.itemAt other = some .dir := by
  obtain ⟨before, ⟨after, split⟩, rfl⟩ := onWay
  rw [← passes_filter, ← split] at passes
  exact (passes_append.mp passes).1.resolve_dir

theorem Passes.short (passes : Passes root place names) (member : name ∈ names) :
    name.utf8ByteSize ≤ maxNameBytes := by
  induction names generalizing place with
  | nil => contradiction
  | cons first rest ih =>
    obtain ⟨_, short, later⟩ := passes
    rcases List.mem_cons.mp member with rfl | inRest
    · exact short
    · exact ih later inRest

/-- What can be followed in one tree can be followed in another one with the same directories. -/
theorem Passes.mono {root' : Tree} (passes : Passes root place names)
    (dirs : ∀ p, root.itemAt p = some .dir → root'.itemAt p = some .dir) :
    Passes root' place names := by
  induction names generalizing place with
  | nil => exact dirs _ passes
  | cons name rest ih => exact ⟨dirs _ passes.1, passes.2.1, ih passes.2.2⟩

/-! ## Walks -/

/-- Whether a walk is stopped by nothing but slashes behind the name of a file to be written. -/
def Stops (last : LastName) (rest : List String) : Prop :=
  last = .written ∧ onlySlashesFollow rest

theorem not_stops_of_real (real : last ≠ .written ∨ ∃ name ∈ more, name ≠ "") :
    ¬ Stops last more := by
  rintro ⟨written, slashes⟩
  rcases real with other | ⟨name, member, notEmpty⟩
  · exact other written
  · simp only [onlySlashesFollow, Bool.and_eq_true, List.all_eq_true, decide_eq_true_eq] at slashes
    exact notEmpty (slashes.2 name member)

theorem walk_of_not_isEntryName {rest : List String} (special : name = "" ∨ name = "." ∨ name = "..") :
    walk root last place (name :: rest) = walk root last (enter place name) rest := by
  rcases special with rfl | rfl | rfl <;> rfl

/-- All that the name of an entry can do to a walk: it is too long, it leads into a directory, it is
the last one and leads to something else or nothing, or the walk fails since there are more names. -/
theorem walk_cons_cases (plain : root.Plain) (isName : IsEntryName name) {rest : List String}
    (goesOn : ¬ Stops last rest) :
    (maxNameBytes < name.utf8ByteSize ∧ walk root last place (name :: rest) = .failed .nameTooLong)
      ∨ name.utf8ByteSize ≤ maxNameBytes ∧
        ((root.itemAt (place ++ [name]) = some .dir
            ∧ walk root last place (name :: rest) = walk root last (place ++ [name]) rest)
          ∨ root.itemAt (place ++ [name]) ≠ some .dir ∧
            ((rest = [] ∧ walk root last place (name :: rest)
                = .arrived ⟨place ++ [name], root.get? (place ++ [name])⟩)
              ∨ rest ≠ [] ∧ walk root last place (name :: rest)
                = .failed (if (root.itemAt (place ++ [name])).isNone then .notFound
                  else .notDirectory))) := by
  have ends : ¬ (decide (last = .written) && onlySlashesFollow rest) := by
    simpa [Stops] using goesOn
  rw [walk.eq_def]
  simp only [if_neg (not_or.mpr ⟨isName.notEmpty, isName.notHere⟩), if_neg isName.notUp, if_neg ends]
  by_cases long : maxNameBytes < name.utf8ByteSize
  · exact Or.inl ⟨long, if_pos long⟩
  refine Or.inr ⟨Nat.not_lt.mp long, ?_⟩
  rw [if_neg long]
  cases found : root.get? (place ++ [name]) with
  | none =>
    have nothing : root.itemAt (place ++ [name]) = none := by rw [Tree.itemAt, found]; rfl
    refine Or.inr ⟨by simp [nothing], ?_⟩
    cases rest <;> simp [nothing]
  | some t =>
    have there : root.itemAt (place ++ [name]) = some t.item := by rw [Tree.itemAt, found]; rfl
    cases t with
    | dir entries => exact Or.inl ⟨there, rfl⟩
    | link target => exact absurd there (plain.itemAt_ne_link _ target)
    | file bytes =>
      refine Or.inr ⟨by simp [there, Tree.item], ?_⟩
      cases rest <;> simp [there]

/-- A walk through directories goes on where they lead. -/
theorem walk_append (plain : root.Plain) (noSlash : ∀ name ∈ names, '/' ∉ name.toList)
    (passes : Passes root place names) (real : last ≠ .written ∨ ∃ name ∈ more, name ≠ "") :
    walk root last place (names ++ more) = walk root last (resolve place names) more := by
  induction names generalizing place with
  | nil => rfl
  | cons name rest ih =>
    obtain ⟨slashless, others⟩ := List.forall_mem_cons.mp noSlash
    obtain ⟨_, short, later⟩ := passes
    rw [List.cons_append, resolve_cons, ← ih others later]
    by_cases special : name = "" ∨ name = "." ∨ name = ".."
    · exact walk_of_not_isEntryName special
    simp only [not_or] at special
    have isName : IsEntryName name := ⟨special.1, special.2.1, special.2.2, slashless⟩
    have goesOn : ¬ Stops last (rest ++ more) := by
      refine not_stops_of_real (real.imp_right fun realName => ?_)
      obtain ⟨other, member, notEmpty⟩ := realName
      exact ⟨other, List.mem_append_right _ member, notEmpty⟩
    rw [enter_of_isEntryName isName] at later ⊢
    rcases walk_cons_cases plain isName goesOn with ⟨long, _⟩ | ⟨_, ⟨_, into⟩ | ⟨notDir, _⟩⟩
    · omega
    · exact into
    · exact absurd later.dir notDir

/-- One more name leads to its entry, if there is any. -/
theorem walk_name (plain : root.Plain) (isName : IsEntryName name)
    (short : name.utf8ByteSize ≤ maxNameBytes) :
    walk root last place [name] = .arrived ⟨place ++ [name], root.get? (place ++ [name])⟩ := by
  have goesOn : ¬ Stops last [] := by simp [Stops, onlySlashesFollow]
  rcases walk_cons_cases plain isName goesOn with ⟨long, _⟩ | ⟨_, ⟨_, into⟩ | ⟨_, ⟨_, there⟩ | ⟨more, _⟩⟩⟩
  · omega
  · rw [into, walk]
  · exact there
  · exact absurd rfl more

/-- Where a walk ends: in a directory behind all names; at the first name that is too long, or that
leads nowhere while there are more; or at what is under the last name. -/
theorem walk_cases (plain : root.Plain) (noSlash : ∀ name ∈ names, '/' ∉ name.toList)
    (start : root.itemAt place = some .dir) (reads : last ≠ .written) :
    (Passes root place names
        ∧ walk root last place names
          = .arrived ⟨resolve place names, root.get? (resolve place names)⟩)
      ∨ ¬ Passes root place names ∧ ((∃ e, walk root last place names = .failed e)
        ∨ ∃ before name, names = before ++ [name] ∧ Passes root place before ∧ IsEntryName name
          ∧ name.utf8ByteSize ≤ maxNameBytes
          ∧ root.itemAt (resolve place before ++ [name]) ≠ some .dir
          ∧ walk root last place names = .arrived ⟨resolve place before ++ [name],
            root.get? (resolve place before ++ [name])⟩) := by
  by_cases passes : Passes root place names
  · refine Or.inl ⟨passes, ?_⟩
    have whole : walk root last place (names ++ []) = walk root last (resolve place names) [] :=
      walk_append plain noSlash passes (Or.inl reads)
    rwa [List.append_nil, walk] at whole
  refine Or.inr ⟨passes, ?_⟩
  induction names generalizing place with
  | nil => exact absurd start passes
  | cons name rest ih =>
    obtain ⟨slashless, others⟩ := List.forall_mem_cons.mp noSlash
    -- a name that leads to a directory is the first of those before the end
    have goOn {next : List String} (enters : enter place name = next)
        (short : name.utf8ByteSize ≤ maxNameBytes) (isDir : root.itemAt next = some .dir)
        (same : walk root last place (name :: rest) = walk root last next rest) :
        (∃ e, walk root last place (name :: rest) = .failed e)
          ∨ ∃ before final, name :: rest = before ++ [final] ∧ Passes root place before
            ∧ IsEntryName final ∧ final.utf8ByteSize ≤ maxNameBytes
            ∧ root.itemAt (resolve place before ++ [final]) ≠ some .dir
            ∧ walk root last place (name :: rest) = .arrived ⟨resolve place before ++ [final],
              root.get? (resolve place before ++ [final])⟩ := by
      subst enters
      rw [same]
      refine (ih others isDir fun later => passes ⟨start, short, later⟩).imp_right ?_
      rintro ⟨before, final, rfl, through, isFinal, fits, notDir, there⟩
      exact ⟨name :: before, final, rfl, ⟨start, short, through⟩, isFinal, fits, notDir, there⟩
    by_cases special : name = "" ∨ name = "." ∨ name = ".."
    · have short : name.utf8ByteSize ≤ maxNameBytes := by
        rcases special with rfl | rfl | rfl <;> decide
      exact goOn rfl short (enter_dir start special) (walk_of_not_isEntryName special)
    · simp only [not_or] at special
      have isName : IsEntryName name := ⟨special.1, special.2.1, special.2.2, slashless⟩
      have goesOn : ¬ Stops last rest := not_stops_of_real (Or.inl reads)
      rcases walk_cons_cases plain isName goesOn with
        ⟨_, failed⟩ | ⟨short, ⟨isDir, into⟩ | ⟨notDir, ⟨rfl, there⟩ | ⟨_, failed⟩⟩⟩
      · exact Or.inl ⟨_, failed⟩
      · exact goOn (enter_of_isEntryName isName) short isDir into
      · exact Or.inr ⟨[], name, rfl, start, isName, short, notDir, there⟩
      · exact Or.inl ⟨_, failed⟩

end

end ConnectorSchema.FileSystem
