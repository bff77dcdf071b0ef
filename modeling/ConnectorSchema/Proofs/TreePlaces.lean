import Mathlib.Data.List.Basic
import ConnectorSchema.Files.FileSystem

/-!
What is where in a tree. Looking there after a change tells what was put (`Tree.itemAt_update`), and
two plain trees with the same things at the same places are the same (`Tree.Plain.ext`).
-/

namespace ConnectorSchema

/-- Names that an entry of a directory can have. -/
structure IsEntryName (name : String) : Prop where
  notEmpty : name ≠ ""
  notHere : name ≠ "."
  notUp : name ≠ ".."
  noSlash : '/' ∉ name.toList

instance (name : String) : Decidable (IsEntryName name) :=
  decidable_of_iff (name ≠ "" ∧ name ≠ "." ∧ name ≠ ".." ∧ '/' ∉ name.toList)
    ⟨fun ⟨notEmpty, notHere, notUp, noSlash⟩ => ⟨notEmpty, notHere, notUp, noSlash⟩,
      fun isName => ⟨isName.notEmpty, isName.notHere, isName.notUp, isName.noSlash⟩⟩

namespace Tree

/-- What stands at a place, apart from what a directory holds. -/
inductive Item where
  | file (bytes : List UInt8)
  | link (target : String)
  | dir
deriving DecidableEq

def item : Tree → Item
  | .file bytes => .file bytes
  | .link target => .link target
  | .dir _ => .dir

def itemAt (t : Tree) (place : List String) : Option Item := (t.get? place).map item

/-- A tree as a disk has it, without links: the entries of a directory have names, each of them once
and in order. -/
inductive Plain : Tree → Prop
  | file (bytes : List UInt8) : Plain (.file bytes)
  | dir {entries : List (String × Tree)} (names : ∀ e ∈ entries, IsEntryName e.1)
      (trees : ∀ e ∈ entries, Plain e.2) (order : entries.Pairwise (·.1 < ·.1)) :
      Plain (.dir entries)

/-! ## Entries -/

section

variable {name other : String} {t : Tree} {entries : List (String × Tree)}

theorem mem_of_child? (found : child? name entries = some t) : (name, t) ∈ entries := by
  induction entries with
  | nil => simp [child?] at found
  | cons e rest ih =>
    rw [child?] at found
    split at found
    · rename_i same
      rw [← Option.some.inj found, ← same]
      exact List.mem_cons_self
    · exact List.mem_cons_of_mem _ (ih found)

theorem child?_of_distinct (distinct : entries.Pairwise (·.1 ≠ ·.1)) (member : (name, t) ∈ entries) :
    child? name entries = some t := by
  induction entries with
  | nil => simp at member
  | cons e rest ih =>
    obtain ⟨first, later⟩ := List.pairwise_cons.mp distinct
    rcases List.mem_cons.mp member with rfl | inRest
    · exact if_pos rfl
    · rw [child?, if_neg (first _ inRest)]
      exact ih later inRest

theorem ne_of_order (order : entries.Pairwise (·.1 < ·.1)) : entries.Pairwise (·.1 ≠ ·.1) :=
  order.imp fun {a b} before (same : a.1 = b.1) => String.lt_irrefl a.1 (same ▸ before)

theorem child?_of_mem (order : entries.Pairwise (·.1 < ·.1)) (member : (name, t) ∈ entries) :
    child? name entries = some t :=
  child?_of_distinct (ne_of_order order) member

theorem child?_putEntry (name other : String) (t : Tree) (entries : List (String × Tree)) :
    child? other (putEntry name t entries)
      = if name = other then some t else child? other entries := by
  induction entries with
  | nil => rfl
  | cons e rest ih =>
    rw [putEntry]
    split
    · rfl
    · split
      · rename_i same
        subst same
        rw [child?, child?]
        split <;> rfl
      · rename_i different
        rw [child?, child?, ih]
        by_cases here : e.1 = other
        · rw [if_pos here, if_pos here, if_neg fun same => different (here.trans same.symm)]
        · rw [if_neg here, if_neg here]

theorem child?_dropEntry (name other : String) (entries : List (String × Tree)) :
    child? other (dropEntry name entries) = if name = other then none else child? other entries := by
  induction entries with
  | nil => simp [dropEntry, child?]
  | cons e rest ih =>
    by_cases dropped : e.1 = name
    · rw [dropEntry, List.filter_cons_of_neg (by simpa using dropped), ← dropEntry, ih, child?]
      by_cases here : name = other
      · rw [if_pos here, if_pos here]
      · rw [if_neg here, if_neg here, if_neg fun same => here (dropped.symm.trans same)]
    · rw [dropEntry, List.filter_cons_of_pos (by simpa using dropped), child?, ← dropEntry, ih, child?]
      by_cases here : e.1 = other
      · rw [if_pos here, if_pos here, if_neg fun same => dropped (here.trans same.symm)]
      · rw [if_neg here, if_neg here]

theorem mem_of_mem_putEntry {e : String × Tree} (member : e ∈ putEntry name t entries) :
    e = (name, t) ∨ e ∈ entries := by
  induction entries with
  | nil => exact Or.inl (List.mem_singleton.mp member)
  | cons d rest ih =>
    rw [putEntry] at member
    split at member
    · exact List.mem_cons.mp member
    · split at member
      · exact (List.mem_cons.mp member).imp_right (List.mem_cons_of_mem _)
      · rcases List.mem_cons.mp member with rfl | later
        · exact Or.inr List.mem_cons_self
        · exact (ih later).imp_right (List.mem_cons_of_mem _)

theorem putEntry_order (order : entries.Pairwise (·.1 < ·.1)) :
    (putEntry name t entries).Pairwise (·.1 < ·.1) := by
  induction entries with
  | nil => exact List.pairwise_singleton _ _
  | cons d rest ih =>
    obtain ⟨first, later⟩ := List.pairwise_cons.mp order
    rw [putEntry]
    split
    · rename_i before
      refine List.pairwise_cons.mpr ⟨fun e member => ?_, order⟩
      rcases List.mem_cons.mp member with rfl | inRest
      · exact before
      · exact String.lt_trans before (first e inRest)
    · rename_i notBefore
      split
      · rename_i same
        refine List.pairwise_cons.mpr ⟨fun e member => ?_, later⟩
        exact same ▸ first e member
      · rename_i different
        refine List.pairwise_cons.mpr ⟨fun e member => ?_, ih later⟩
        rcases mem_of_mem_putEntry member with rfl | inRest
        · exact Std.lt_of_le_of_ne notBefore different
        · exact first e inRest

end

/-- Lists in order with the same entry under each name are the same. -/
theorem eq_of_child?_eq {entries entries' : List (String × Tree)}
    (order : entries.Pairwise (·.1 < ·.1)) (order' : entries'.Pairwise (·.1 < ·.1))
    (same : ∀ name, child? name entries = child? name entries') : entries = entries' := by
  have distinct {es : List (String × Tree)} (increase : es.Pairwise (·.1 < ·.1)) : es.Nodup :=
    increase.imp fun {a b} before (same : a = b) => String.lt_irrefl a.1 (same ▸ before)
  refine List.Perm.eq_of_pairwise (fun a b _ _ before after => ?_) order order' ?_
  · exact absurd (String.lt_trans before after) (String.lt_irrefl _)
  · refine (List.perm_ext_iff_of_nodup (distinct order) (distinct order')).mpr fun e => ?_
    constructor
    · exact fun member => mem_of_child? ((same e.1).symm.trans (child?_of_mem order member))
    · exact fun member => mem_of_child? ((same e.1).trans (child?_of_mem order' member))

/-! ## Looking -/

section

variable {t : Tree} {entries : List (String × Tree)}

theorem get?_nil : t.get? [] = some t := by
  cases t <;> rfl

theorem get?_dir (name : String) (rest : List String) :
    (dir entries).get? (name :: rest) = (child? name entries).bind (·.get? rest) := rfl

theorem get?_append (place below : List String) :
    t.get? (place ++ below) = (t.get? place).bind (·.get? below) := by
  induction place generalizing t with
  | nil => rw [List.nil_append, get?_nil, Option.bind_some]
  | cons name rest ih =>
    cases t with
    | file | link => rfl
    | dir entries =>
      rw [List.cons_append, get?_dir, get?_dir, Option.bind_assoc]
      exact congrArg _ (funext fun child => ih)

theorem itemAt_nil : t.itemAt [] = some t.item := by
  rw [itemAt, get?_nil, Option.map_some]

theorem itemAt_dir (name : String) (rest : List String) :
    (dir entries).itemAt (name :: rest) = (child? name entries).bind (·.itemAt rest) := by
  rw [itemAt, get?_dir, Option.map_bind]
  rfl

/-- Only a directory is a directory. -/
theorem itemAt_eq_dir {place : List String} (found : t.itemAt place = some .dir) :
    ∃ entries, t.get? place = some (.dir entries) := by
  obtain ⟨s, atPlace, item⟩ := Option.map_eq_some_iff.mp found
  cases s with
  | file | link => exact Item.noConfusion item
  | dir entries => exact ⟨entries, atPlace⟩

theorem any_isDir_iff {place : List String} : (t.get? place).any isDir ↔ t.itemAt place = some .dir := by
  rw [itemAt]
  cases t.get? place with
  | none => simp
  | some s => cases s <;> simp [isDir, item]

/-- What stands somewhere stands in a directory. -/
theorem itemAt_eq_dir_of_append {place : List String} {name : String} {below : List String}
    (present : t.itemAt (place ++ name :: below) ≠ none) : t.itemAt place = some .dir := by
  rw [itemAt, get?_append] at present
  cases found : t.get? place with
  | none => simp [found] at present
  | some s =>
    cases s with
    | file | link => simp [found, get?] at present
    | dir entries => rw [itemAt, found]; rfl

/-- Below what is no directory there is nothing. -/
theorem itemAt_append_eq_none {place : List String} (notDir : t.itemAt place ≠ some .dir)
    {below : List String} (deeper : below ≠ []) : t.itemAt (place ++ below) = none := by
  obtain ⟨name, rest, rfl⟩ := List.exists_cons_of_ne_nil deeper
  by_contra present
  exact notDir (itemAt_eq_dir_of_append present)

theorem update_below {new : Option Tree} {first : String} {place : List String} {child : Tree}
    (found : child? first entries = some child) (deeper : place ≠ []) :
    update new (dir entries) (first :: place)
      = dir (putEntry first (update new child place) entries) := by
  obtain ⟨next, rest, rfl⟩ := List.exists_cons_of_ne_nil deeper
  rw [update, found]

/-- An entry that was put into a directory, or taken out of it. -/
theorem itemAt_update_entry (new : Option Tree) (name : String) (other : List String) :
    (update new (dir entries) [name]).itemAt other
      = if [name] <+: other then new.bind (·.itemAt (other.drop 1))
        else (dir entries).itemAt other := by
  have updated : update new (dir entries) [name]
      = dir (new.elim (dropEntry name entries) (putEntry name · entries)) := by
    cases new <;> rfl
  cases other with
  | nil => rw [updated, itemAt_nil, itemAt_nil, if_neg (by simp)]; rfl
  | cons first rest =>
    rw [updated, itemAt_dir, itemAt_dir]
    by_cases here : name = first
    · subst here
      rw [if_pos (by simp)]
      cases new with
      | none => rw [Option.elim_none, child?_dropEntry, if_pos rfl]; rfl
      | some s => rw [Option.elim_some, child?_putEntry, if_pos rfl]; rfl
    · rw [if_neg (by simp [here])]
      cases new with
      | none => rw [Option.elim_none, child?_dropEntry, if_neg here]
      | some s => rw [Option.elim_some, child?_putEntry, if_neg here]

/-- What was put at a place in a directory is there with all that is below it, and everything else is
where it was. -/
theorem itemAt_update {new : Option Tree} {parent : List String} {name : String}
    (inDir : t.itemAt parent = some .dir) (other : List String) :
    (update new t (parent ++ [name])).itemAt other
      = if parent ++ [name] <+: other then
          new.bind (·.itemAt (other.drop (parent.length + 1)))
        else t.itemAt other := by
  induction parent generalizing t other with
  | nil =>
    obtain ⟨entries, found⟩ := itemAt_eq_dir inDir
    rw [get?_nil, Option.some.injEq] at found
    subst found
    exact itemAt_update_entry new name other
  | cons first rest ih =>
    cases t with
    | file | link => simp [itemAt, get?] at inDir
    | dir entries =>
      rw [itemAt_dir] at inDir
      obtain ⟨child, found, inChild⟩ := Option.bind_eq_some_iff.mp inDir
      rw [List.cons_append, update_below found (by simp)]
      cases other with
      | nil => rw [itemAt_nil, itemAt_nil, if_neg (by simp)]; rfl
      | cons next later =>
        -- of all entries only the one on the way is another tree now
        rw [itemAt_dir, itemAt_dir, child?_putEntry]
        by_cases here : first = next
        · subst here
          rw [if_pos rfl, Option.bind_some, ih inChild, found, Option.bind_some]
          simp only [List.cons_prefix_cons, true_and, List.length_cons, List.drop_succ_cons]
        · rw [if_neg here, if_neg (by simp [here])]

/-! ## Plain trees -/

theorem Plain.child (plain : (Tree.dir entries).Plain) {name : String} {child : Tree}
    (found : child? name entries = some child) : IsEntryName name ∧ child.Plain := by
  cases plain with
  | dir names trees _ => exact ⟨names _ (mem_of_child? found), trees _ (mem_of_child? found)⟩

theorem Plain.of_get? {place : List String} {s : Tree} (plain : t.Plain)
    (found : t.get? place = some s) : s.Plain := by
  induction place generalizing t with
  | nil =>
    rw [get?_nil, Option.some.injEq] at found
    exact found ▸ plain
  | cons name rest ih =>
    cases t with
    | file | link => simp [get?] at found
    | dir entries =>
      obtain ⟨child, inDir, below⟩ := Option.bind_eq_some_iff.mp found
      exact ih (plain.child inDir).2 below

theorem Plain.itemAt_ne_link (plain : t.Plain) (place : List String) (target : String) :
    t.itemAt place ≠ some (.link target) := by
  intro found
  obtain ⟨s, atPlace, item⟩ := Option.map_eq_some_iff.mp found
  cases plain.of_get? atPlace with
  | file | dir => exact Item.noConfusion item

/-- The names that lead to something are names of entries. -/
theorem Plain.isEntryName {place : List String} (plain : t.Plain) (present : t.itemAt place ≠ none) :
    ∀ name ∈ place, IsEntryName name := by
  induction place generalizing t with
  | nil => simp
  | cons name rest ih =>
    cases t with
    | file | link => simp [itemAt, get?] at present
    | dir entries =>
      rw [itemAt_dir] at present
      cases found : child? name entries with
      | none => simp [found] at present
      | some child =>
        obtain ⟨isName, plainChild⟩ := plain.child found
        exact List.forall_mem_cons.mpr ⟨isName, ih plainChild (by simpa [found] using present)⟩

theorem Plain.putEntry (plain : (Tree.dir entries).Plain) {name : String} (isName : IsEntryName name)
    {child : Tree} (plainChild : child.Plain) : (Tree.dir (Tree.putEntry name child entries)).Plain := by
  cases plain with
  | dir names trees order =>
    refine .dir (fun e member => ?_) (fun e member => ?_) (putEntry_order order)
    · rcases mem_of_mem_putEntry member with rfl | old
      · exact isName
      · exact names e old
    · rcases mem_of_mem_putEntry member with rfl | old
      · exact plainChild
      · exact trees e old

theorem Plain.dropEntry (plain : (Tree.dir entries).Plain) (name : String) :
    (Tree.dir (Tree.dropEntry name entries)).Plain := by
  cases plain with
  | dir names trees order =>
    exact .dir (fun e member => names e (List.mem_of_mem_filter member))
      (fun e member => trees e (List.mem_of_mem_filter member)) (order.filter _)

theorem Plain.update {new : Option Tree} (plain : t.Plain) (plainNew : ∀ s ∈ new, s.Plain)
    {place : List String} (names : ∀ name ∈ place, IsEntryName name) :
    (Tree.update new t place).Plain := by
  induction place generalizing t with
  | nil =>
    cases new with
    | none => cases t <;> exact plain
    | some s => cases t <;> exact plainNew s rfl
  | cons name rest ih =>
    obtain ⟨isName, others⟩ := List.forall_mem_cons.mp names
    cases t with
    | file | link => cases rest <;> exact plain
    | dir entries =>
      cases rest with
      | nil =>
        cases new with
        | none => exact plain.dropEntry name
        | some s => exact plain.putEntry isName (plainNew s rfl)
      | cons next later =>
        cases found : child? name entries with
        | none =>
          rw [Tree.update, found]
          exact plain
        | some child =>
          rw [update_below found (by simp)]
          exact plain.putEntry isName (ih (plain.child found).2 others)

/-- Plain trees with the same things at the same places are the same. The induction is on the first
tree; its entries are found again in the second one by their names. -/
theorem Plain.ext {t' : Tree} (plain : t.Plain) (plain' : t'.Plain)
    (same : ∀ place, t.itemAt place = t'.itemAt place) : t = t' := by
  induction plain generalizing t' with
  | file bytes =>
    have here := same []
    cases plain' with
    | file => simpa [itemAt_nil, item] using here
    | dir => simp [itemAt_nil, item] at here
  | @dir entries names trees order ih =>
    have here := same []
    cases plain' with
    | file => simp [itemAt_nil, item] at here
    | @dir entries' names' trees' order' =>
      have below : ∀ name rest, (child? name entries).bind (·.itemAt rest)
          = (child? name entries').bind (·.itemAt rest) := fun name rest => by
        rw [← itemAt_dir, ← itemAt_dir, same]
      refine congrArg Tree.dir (eq_of_child?_eq order order' fun name => ?_)
      have top := below name []
      cases found : child? name entries with
      | none =>
        cases found' : child? name entries' with
        | none => rfl
        | some child' => simp [found, found', itemAt_nil] at top
      | some child =>
        cases found' : child? name entries' with
        | none => simp [found, found', itemAt_nil] at top
        | some child' =>
          refine congrArg some (ih _ (mem_of_child? found) (trees' _ (mem_of_child? found')) ?_)
          intro rest
          simpa [found, found'] using below name rest

end

end Tree

end ConnectorSchema
