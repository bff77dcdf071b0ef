import ConnectorSchema.Proofs.FilePlaces

/-!
Trees as disks have them, links included. Whatever a path leads to is a part of the tree
(`FileSystem.get?_of_node?`), so a directory that is found has distinct names in it.
-/

namespace ConnectorSchema

namespace Tree

/-- The entries of each directory have names, each of them once, in whatever order. Links may lead
anywhere. -/
inductive OnDisk : Tree → Prop
  | file (bytes : List UInt8) : OnDisk (.file bytes)
  | link (target : String) : OnDisk (.link target)
  | dir {entries : List (String × Tree)} (names : ∀ e ∈ entries, IsEntryName e.1)
      (trees : ∀ e ∈ entries, OnDisk e.2) (distinct : entries.Pairwise (·.1 ≠ ·.1)) :
      OnDisk (.dir entries)

theorem Plain.onDisk {t : Tree} (plain : t.Plain) : t.OnDisk := by
  induction plain with
  | file bytes => exact .file bytes
  | dir names _ order onDisk => exact .dir names onDisk (ne_of_order order)

variable {t s : Tree} {entries : List (String × Tree)} {name : String} {place : List String}

theorem OnDisk.single (isName : IsEntryName name) (onDisk : t.OnDisk) :
    (Tree.dir [(name, t)]).OnDisk :=
  .dir (List.forall_mem_singleton.mpr isName) (List.forall_mem_singleton.mpr onDisk)
    (List.pairwise_singleton _ _)

theorem OnDisk.child (onDisk : (Tree.dir entries).OnDisk) (found : child? name entries = some t) :
    IsEntryName name ∧ t.OnDisk := by
  cases onDisk with
  | dir names trees _ => exact ⟨names _ (mem_of_child? found), trees _ (mem_of_child? found)⟩

theorem OnDisk.child?_of_mem (onDisk : (Tree.dir entries).OnDisk) (member : (name, t) ∈ entries) :
    child? name entries = some t := by
  cases onDisk with
  | dir _ _ distinct => exact child?_of_distinct distinct member

/-- What is in a tree is a tree of this kind, and lies behind names of entries. -/
theorem OnDisk.of_get? (onDisk : t.OnDisk) (found : t.get? place = some s) :
    (∀ name ∈ place, IsEntryName name) ∧ s.OnDisk := by
  induction place generalizing t with
  | nil =>
    rw [get?_nil, Option.some.injEq] at found
    exact ⟨List.forall_mem_nil _, found ▸ onDisk⟩
  | cons name rest ih =>
    cases t with
    | file | link => cases found
    | dir entries =>
      obtain ⟨child, inDir, below⟩ := Option.bind_eq_some_iff.mp found
      obtain ⟨isName, onDisk⟩ := onDisk.child inDir
      obtain ⟨names, onDisk⟩ := ih onDisk below
      exact ⟨List.forall_mem_cons.mpr ⟨isName, names⟩, onDisk⟩

/-- What stands behind two names is an entry of an entry. -/
theorem OnDisk.get?_pair_iff (onDisk : (Tree.dir entries).OnDisk) {other : String} :
    (Tree.dir entries).get? [name, other] = some t
      ↔ ∃ inner, (name, Tree.dir inner) ∈ entries ∧ (other, t) ∈ inner := by
  constructor
  · intro found
    obtain ⟨s, here, inside⟩ := Option.bind_eq_some_iff.mp found
    cases s with
    | file | link => cases inside
    | dir inner =>
      obtain ⟨u, there, same⟩ := Option.bind_eq_some_iff.mp inside
      rw [get?_nil, Option.some_inj] at same
      exact ⟨inner, mem_of_child? here, same ▸ mem_of_child? there⟩
  · rintro ⟨inner, inEntries, inInner⟩
    have here := onDisk.child?_of_mem inEntries
    rw [get?_dir, here, Option.bind_some, get?_dir, (onDisk.child here).2.child?_of_mem inInner,
      Option.bind_some, get?_nil]

end Tree

namespace FileSystem

variable {root : Tree} {last : LastName} {place names : List String} {location : Location}

theorem node?_of_walk (arrived : walk root last place names = .arrived location) :
    location.node? = root.get? location.place := by
  induction names generalizing place with
  | nil =>
    cases arrived
    rfl
  | cons name rest ih =>
    rw [walk] at arrived
    split at arrived
    · exact ih arrived
    split at arrived
    · exact ih arrived
    split at arrived
    · cases arrived
    split at arrived
    · cases arrived
    simp only at arrived
    split at arrived
    case h_2 => exact ih arrived
    all_goals
      rename_i here
      split at arrived
    case h_1.isTrue | h_3.isTrue | h_4.isTrue =>
      cases arrived
      exact here.symm
    all_goals cases arrived

/-- However many links are followed, what is found is what the tree has at the place. -/
theorem node?_of_follow {links : Nat} (found : follow root last links place names = .ok location) :
    location.node? = root.get? location.place := by
  induction links generalizing place names with
  | zero =>
    unfold follow at found
    split at found
    · rename_i arrived
      cases found
      exact node?_of_walk arrived
    · cases found
    · cases found
  | succ links ih =>
    unfold follow at found
    split at found
    · rename_i arrived
      cases found
      exact node?_of_walk arrived
    · cases found
    · exact ih found

/-- What is at a path is at some place of the tree. -/
theorem get?_of_node? {fs : FileSystem} {path : String} {t : Tree} (found : fs.node? path = some t) :
    ∃ place, fs.root.get? place = some t := by
  unfold node? at found
  split at found
  · rename_i location located
    exact ⟨location.place, (node?_of_follow (locateNames_of_locate located)).symm.trans found⟩
  · cases found

theorem onDisk_of_node? {fs : FileSystem} {path : String} {t : Tree} (onDisk : fs.root.OnDisk)
    (found : fs.node? path = some t) : t.OnDisk := by
  obtain ⟨place, there⟩ := get?_of_node? found
  exact (onDisk.of_get? there).2

end FileSystem

end ConnectorSchema
