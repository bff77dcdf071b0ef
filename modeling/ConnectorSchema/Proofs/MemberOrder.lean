import ConnectorSchema.Json.Value

/-!
The members of an object that was read stand in the order of their keys, without repetition. Sorting
makes it so and leaves such members alone; of equal keys the last is kept (`lookup_sortMembers`).
-/

namespace ConnectorSchema.Json

def KeysIncrease (members : List (String × Value)) : Prop := members.Pairwise (·.1 < ·.1)

theorem mem_of_mem_insertMember {key : String} {value : Value} {m : String × Value}
    {members : List (String × Value)} (member : m ∈ insertMember key value members) :
    m = (key, value) ∨ m ∈ members := by
  induction members with
  | nil => exact Or.inl (List.mem_singleton.mp member)
  | cons first rest ih =>
    obtain ⟨k, v⟩ := first
    unfold insertMember at member
    split at member
    · exact List.mem_cons.mp member
    · split at member
      · rcases List.mem_cons.mp member with new | old
        · exact Or.inl new
        · exact Or.inr (List.mem_cons_of_mem _ old)
      · rcases List.mem_cons.mp member with first | later
        · exact Or.inr (first ▸ List.mem_cons_self)
        · exact (ih later).imp_right (List.mem_cons_of_mem _)

theorem insertMember_increase {members : List (String × Value)} (sorted : KeysIncrease members)
    (key : String) (value : Value) : KeysIncrease (insertMember key value members) := by
  induction members with
  | nil => exact List.pairwise_singleton _ _
  | cons first rest ih =>
    obtain ⟨k, v⟩ := first
    obtain ⟨before, later⟩ := List.pairwise_cons.mp sorted
    unfold insertMember
    split
    · rename_i below
      refine List.pairwise_cons.mpr ⟨fun m member => ?_, sorted⟩
      rcases List.mem_cons.mp member with rfl | inRest
      · exact below
      · exact String.lt_trans below (before m inRest)
    · split
      · rename_i same
        refine List.pairwise_cons.mpr ⟨fun m inRest => ?_, later⟩
        exact same ▸ before m inRest
      · rename_i notBelow different
        have above : k < key := Std.lt_of_le_of_ne notBelow (Ne.symm different)
        refine List.pairwise_cons.mpr ⟨fun m member => ?_, ih later⟩
        rcases mem_of_mem_insertMember member with rfl | inRest
        · exact above
        · exact before m inRest

/-- A key beyond all others goes to the end. -/
theorem insertMember_last {members : List (String × Value)} {key : String}
    (beyond : ∀ m ∈ members, m.1 < key) (value : Value) :
    insertMember key value members = members ++ [(key, value)] := by
  induction members with
  | nil => rfl
  | cons first rest ih =>
    obtain ⟨k, v⟩ := first
    have above : k < key := beyond (k, v) List.mem_cons_self
    have different : key ≠ k := fun same => String.lt_irrefl k (same ▸ above)
    rw [insertMember, if_neg (String.lt_asymm above), if_neg different,
      ih fun m member => beyond m (List.mem_cons_of_mem _ member)]
    rfl

theorem sortMembers_increase (members : List (String × Value)) :
    KeysIncrease (sortMembers members) := by
  have folded : ∀ sorted, KeysIncrease sorted →
      KeysIncrease (members.foldl (fun sorted m => insertMember m.1 m.2 sorted) sorted) := by
    induction members with
    | nil => exact fun sorted increase => increase
    | cons m rest ih => exact fun sorted increase => ih _ (insertMember_increase increase _ _)
  exact folded [] .nil

theorem mem_of_mem_sortMembers {members : List (String × Value)} {m : String × Value}
    (member : m ∈ sortMembers members) : m ∈ members := by
  have folded : ∀ sorted,
      m ∈ members.foldl (fun sorted m => insertMember m.1 m.2 sorted) sorted →
      m ∈ sorted ∨ m ∈ members := by
    clear member
    induction members with
    | nil => exact fun sorted inSorted => Or.inl inSorted
    | cons first rest ih =>
      intro sorted inFold
      rcases ih _ inFold with inInserted | inRest
      · rcases mem_of_mem_insertMember inInserted with rfl | old
        · exact Or.inr List.mem_cons_self
        · exact Or.inl old
      · exact Or.inr (List.mem_cons_of_mem _ inRest)
  exact (folded [] member).resolve_left List.not_mem_nil

/-- Sorting adds each of sorted members at the end. -/
theorem sortMembers_of_increase {members : List (String × Value)} (sorted : KeysIncrease members) :
    sortMembers members = members := by
  have folded : ∀ done, KeysIncrease (done ++ members) →
      members.foldl (fun sorted m => insertMember m.1 m.2 sorted) done = done ++ members := by
    clear sorted
    induction members with
    | nil => simp
    | cons m rest ih =>
      intro done increase
      have beyond : ∀ other ∈ done, other.1 < m.1 := fun other member =>
        (List.pairwise_append.mp increase).2.2 other member m List.mem_cons_self
      rw [List.foldl_cons, insertMember_last beyond]
      simpa using ih (done ++ [m]) (by simpa using increase)
  exact folded [] sorted

theorem lookup_member (key name : String) (value : Value) (members : List (String × Value)) :
    ((name, value) :: members).lookup key = if key = name then some value else members.lookup key := by
  rw [List.lookup_cons]
  by_cases here : key = name
  · simp [here]
  · rw [beq_eq_false_iff_ne.mpr here, if_neg here]

theorem lookup_insertMember (key name : String) (value : Value) (members : List (String × Value)) :
    (insertMember name value members).lookup key
      = if key = name then some value else members.lookup key := by
  induction members with
  | nil => exact lookup_member key name value []
  | cons first rest ih =>
    obtain ⟨k, v⟩ := first
    unfold insertMember
    split
    · exact lookup_member key name value _
    · split
      · rename_i same
        rw [lookup_member, lookup_member, same]
        split <;> rfl
      · rename_i different
        rw [lookup_member, ih, lookup_member]
        by_cases here : key = name
        · rw [if_neg (fun same => different (here.symm.trans same)), if_pos here, if_pos here]
        · rw [if_neg here, if_neg here]

/-- A key has the value that stands last behind it. -/
theorem lookup_sortMembers (key : String) (members : List (String × Value)) :
    (sortMembers members).lookup key = members.reverse.lookup key := by
  have folded : ∀ sorted,
      (members.foldl (fun sorted m => insertMember m.1 m.2 sorted) sorted).lookup key
        = (members.reverse.lookup key).or (sorted.lookup key) := by
    induction members with
    | nil => exact fun _ => rfl
    | cons first rest ih =>
      intro sorted
      rw [List.foldl_cons, ih, lookup_insertMember, List.reverse_cons, List.lookup_append,
        Option.or_assoc, lookup_member]
      split <;> rfl
  rw [sortMembers, folded, List.lookup_nil, Option.or_none]

end ConnectorSchema.Json
