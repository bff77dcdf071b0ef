import Mathlib.Data.List.Sigma
import ConnectorSchema.Json.Record
import ConnectorSchema.Proofs.Reading

/-!
What has been seen of a record when it is read. Each field was read from a node of its own or has been
left out; and of an object that is all there is to it (`readRecord_object_iff`), so the order of the
members does not count, nor do those that are not known.
-/

namespace ConnectorSchema.Json

/-- How a field comes by its content: from a node, or from there being none. -/
def Obtains {α : Type} (read : Reader α) (absent : Option α) (room : Nat) : Option Node → α → Prop
  | some node, a => read room node = .ok a
  | none, a => absent = some a

namespace RecordForm

variable {form : RecordForm} {room : Nat}

/-! ## Fields and what is known of them -/

variable (form) in
def KeysDistinct : Prop := (form.fields.map form.key).Nodup

theorem field?_key (distinct : form.KeysDistinct) (f : form.Field) :
    form.field? (form.key f) = some f := by
  cases found : form.field? (form.key f) with
  | none =>
    have other := List.find?_eq_none.mp found f (form.complete f)
    simp at other
  | some g =>
    have same : form.key g = form.key f := by simpa using List.find?_some found
    rw [List.inj_on_of_nodup_map distinct (form.complete g) (form.complete f) same]

theorem fill_eq_ok_iff {given : Given form} {v : Filled form} :
    fill given = .ok v ↔ ∀ f, content? given f = some (v f) := by
  unfold fill
  split
  · rename_i f missing
    have none : content? given f = none := by simpa using List.find?_some missing
    constructor
    · intro filled
      contradiction
    · intro all
      have some := all f
      rw [none] at some
      contradiction
  · rename_i present
    constructor
    · intro filled
      cases filled
      intro f
      exact (Option.some_get _).symm
    · intro all
      congr 1
      funext f
      exact Option.some.inj ((Option.some_get _).trans (all f))

variable (form) in
def fieldOf? (key : RawString) : Option form.Field := key.text.toOption.bind form.field?

theorem fieldOf?_eq {key : RawString} {name : String} (text : key.text = .ok name) :
    form.fieldOf? key = form.field? name := by
  simp [fieldOf?, text, Except.toOption]

variable (form) in
/-- The nodes of the fields, in the order of the members of an object. -/
def known (members : List (RawString × Node)) : List (Σ _ : form.Field, Node) :=
  members.filterMap fun m => (form.fieldOf? m.1).map fun f => ⟨f, m.2⟩

variable (form) in
/-- A member that stands in nobody's way: the key is a text, and what goes with an unknown one is a
value. -/
def Passes (m : RawString × Node) : Prop :=
  ∃ name, m.1.text = .ok name ∧ (form.field? name = none → m.2.skip = .ok ())

variable (form) in
structure Accepts (members : List (RawString × Node)) : Prop where
  passes : ∀ m ∈ members, form.Passes m
  once : (form.known members).NodupKeys

/-! ## Members -/

section

variable {given all : Given form} {key : RawString} {name : String} {node : Node}
  {rest : List (RawString × Node)} {f : form.Field}

theorem text_of_readMembersAfter (read : readMembersAfter room given ((key, node) :: rest) = .ok all) :
    ∃ name, key.text = .ok name := by
  unfold readMembersAfter at read
  obtain ⟨name, text, _⟩ := bind_eq_ok_iff.mp read
  exact ⟨name, liftFault_eq_ok_iff.mp text⟩

theorem readMembersAfter_unknown (text : key.text = .ok name) (unknown : form.field? name = none) :
    readMembersAfter room given ((key, node) :: rest) = .ok all
      ↔ node.skip = .ok () ∧ readMembersAfter room given rest = .ok all := by
  rw [readMembersAfter, text]
  simp only [liftFault, Except.mapError, bind, Except.bind, unknown]
  cases node.skip <;> simp

theorem readMembersAfter_known (text : key.text = .ok name) (known : form.field? name = some f) :
    readMembersAfter room given ((key, node) :: rest) = .ok all
      ↔ find? f given = none ∧ ∃ content, form.read f room node = .ok content
        ∧ readMembersAfter room (⟨f, content⟩ :: given) rest = .ok all := by
  rw [readMembersAfter, text]
  simp only [liftFault, Except.mapError, bind, Except.bind, known]
  cases find? f given with
  | some content => simp
  | none => cases form.read f room node <;> simp

end

/-- What becomes of a field when an object is read on. -/
def Continues (room : Nat) (f : form.Field) (before : Option (form.Content f)) :
    Option Node → Option (form.Content f) → Prop
  | none, after => before = after
  | some node, after =>
    before = none ∧ ∃ content, form.read f room node = .ok content ∧ after = some content

theorem known_unknown {key : RawString} {node : Node} {rest : List (RawString × Node)}
    (unknown : form.fieldOf? key = none) : form.known ((key, node) :: rest) = form.known rest := by
  simp [known, unknown]

theorem known_cons {key : RawString} {node : Node} {rest : List (RawString × Node)} {f : form.Field}
    (is : form.fieldOf? key = some f) :
    form.known ((key, node) :: rest) = ⟨f, node⟩ :: form.known rest := by
  simp [known, is]

theorem accepts_unknown {key : RawString} {name : String} {node : Node}
    {rest : List (RawString × Node)} (text : key.text = .ok name)
    (unknown : form.field? name = none) :
    form.Accepts ((key, node) :: rest) ↔ node.skip = .ok () ∧ form.Accepts rest := by
  have none : form.fieldOf? key = none := (fieldOf?_eq text).trans unknown
  constructor
  · rintro ⟨passes, once⟩
    rw [known_unknown none] at once
    obtain ⟨other, same, skipped⟩ := passes _ List.mem_cons_self
    rw [text] at same
    cases same
    exact ⟨skipped unknown, fun m member => passes m (List.mem_cons_of_mem _ member), once⟩
  · rintro ⟨skipped, passes, once⟩
    refine ⟨fun m member => ?_, by rwa [known_unknown none]⟩
    rcases List.mem_cons.mp member with rfl | inRest
    · exact ⟨name, text, fun _ => skipped⟩
    · exact passes m inRest

theorem accepts_known {key : RawString} {name : String} {node : Node} {f : form.Field}
    {rest : List (RawString × Node)} (text : key.text = .ok name)
    (known : form.field? name = some f) :
    form.Accepts ((key, node) :: rest) ↔ f ∉ (form.known rest).keys ∧ form.Accepts rest := by
  have is : form.fieldOf? key = some f := (fieldOf?_eq text).trans known
  constructor
  · rintro ⟨passes, once⟩
    rw [known_cons is, List.nodupKeys_cons] at once
    exact ⟨once.1, fun m member => passes m (List.mem_cons_of_mem _ member), once.2⟩
  · rintro ⟨new, passes, once⟩
    refine ⟨fun m member => ?_, by rw [known_cons is]; exact List.nodupKeys_cons.mpr ⟨new, once⟩⟩
    rcases List.mem_cons.mp member with rfl | inRest
    · exact ⟨name, text, fun unknown => by rw [known] at unknown; contradiction⟩
    · exact passes m inRest

theorem find?_cons_ne {given : Given form} {f g : form.Field} (other : g ≠ f) (content : form.Content f) :
    find? g (⟨f, content⟩ :: given) = find? g given := by
  simp [find?, other.symm]

/-- A field that is read now has not been read before and will not be read again. -/
theorem continues_known {given : Given form} {nodes : List (Σ _ : form.Field, Node)}
    {f : form.Field} {node : Node} {content : (f : form.Field) → Option (form.Content f)} :
    (f ∉ nodes.keys
        ∧ ∀ g, Continues room g (find? g given) (List.dlookup g (⟨f, node⟩ :: nodes)) (content g))
      ↔ find? f given = none ∧ ∃ here, form.read f room node = .ok here
        ∧ ∀ g, Continues room g (find? g (⟨f, here⟩ :: given)) (nodes.dlookup g) (content g) := by
  constructor
  · rintro ⟨once, continues⟩
    have atField := continues f
    rw [List.dlookup_cons_eq] at atField
    obtain ⟨new, here, read, contentHere⟩ := atField
    refine ⟨new, here, read, fun g => ?_⟩
    by_cases same : g = f
    · subst same
      rw [List.dlookup_eq_none.mpr once]
      simp [Continues, find?, contentHere]
    · have other := continues g
      rwa [List.dlookup_cons_ne _ _ same, ← find?_cons_ne same here] at other
  · rintro ⟨new, here, read, continues⟩
    have atField := continues f
    -- A second member for the field would have to find it without content.
    have once : nodes.dlookup f = none := by
      cases again : nodes.dlookup f with
      | none => rfl
      | some node => simp [again, Continues, find?] at atField
    rw [once] at atField
    have contentHere : content f = some here := by simpa [Continues, find?] using atField.symm
    refine ⟨List.dlookup_eq_none.mp once, fun g => ?_⟩
    by_cases same : g = f
    · subst same
      rw [List.dlookup_cons_eq]
      exact ⟨new, here, read, contentHere⟩
    · have other := continues g
      rwa [List.dlookup_cons_ne _ _ same, ← find?_cons_ne same here]

/-- Reading members one after the other gives each field what its own member says. -/
theorem exists_readMembersAfter_iff {given : Given form} {members : List (RawString × Node)}
    {content : (f : form.Field) → Option (form.Content f)} :
    (∃ all, readMembersAfter room given members = .ok all ∧ ∀ f, find? f all = content f)
      ↔ form.Accepts members
        ∧ ∀ f, Continues room f (find? f given) ((form.known members).dlookup f) (content f) := by
  -- Each member that is read goes in front of `given`, so the claim is about any contents before it.
  induction members generalizing given with
  | nil =>
    have nothing : form.Accepts [] := ⟨fun m member => absurd member List.not_mem_nil, by simp [known]⟩
    simp [readMembersAfter, nothing, known, Continues]
  | cons m rest ih =>
    obtain ⟨key, node⟩ := m
    cases text : key.text with
    | error fault =>
      constructor
      · rintro ⟨all, read, _⟩
        obtain ⟨name, some⟩ := text_of_readMembersAfter read
        rw [text] at some
        contradiction
      · rintro ⟨⟨passes, _⟩, _⟩
        obtain ⟨name, some, _⟩ := passes _ List.mem_cons_self
        rw [text] at some
        contradiction
    | ok name =>
      cases field : form.field? name with
      | none =>
        have none : form.fieldOf? key = none := (fieldOf?_eq text).trans field
        simp only [readMembersAfter_unknown text field, accepts_unknown text field,
          known_unknown none, and_assoc, exists_and_left, ih]
      | some f =>
        have is : form.fieldOf? key = some f := (fieldOf?_eq text).trans field
        rw [accepts_known text field, known_cons is, and_comm (a := _ ∉ _), and_assoc,
          continues_known]
        simp only [readMembersAfter_known text field]
        constructor
        · rintro ⟨all, ⟨new, here, readHere, readRest⟩, contents⟩
          obtain ⟨accepted, continues⟩ := ih.mp ⟨all, readRest, contents⟩
          exact ⟨accepted, new, here, readHere, continues⟩
        · rintro ⟨accepted, new, here, readHere, continues⟩
          obtain ⟨all, readRest, contents⟩ := ih.mpr ⟨accepted, continues⟩
          exact ⟨all, ⟨new, here, readHere, readRest⟩, contents⟩

/-- What is known of a field at the end, and what that makes of it. -/
theorem obtains_iff {node? : Option Node} {f : form.Field} {content : form.Content f} :
    Obtains (form.read f) (form.absent f) room node? content
      ↔ ∃ found, Continues room f none node? found ∧ found.or (form.absent f) = some content := by
  cases node? with
  | none => simp [Obtains, Continues]
  | some node => simp [Obtains, Continues]

/-- An object is read field by field, wherever the members stand. -/
theorem readRecord_object_iff {members : List (RawString × Node)} {stop : Option ObjectStop}
    {v : Filled form} :
    form.readRecord room (.object members stop) = .ok v
      ↔ stop = none ∧ ∃ less, room = less + 1 ∧ form.Accepts members
        ∧ ∀ f, Obtains (form.read f) (form.absent f) less ((form.known members).dlookup f) (v f) := by
  simp only [readRecord, enter_eq_ok_iff, bind_eq_ok_iff, liftFault_eq_ok_iff, fill_eq_ok_iff,
    obtains_iff]
  constructor
  · rintro ⟨less, rfl, given, read, _, closed, filled⟩
    obtain ⟨accepted, continues⟩ := exists_readMembersAfter_iff.mp ⟨given, read, fun f => rfl⟩
    exact ⟨endOr_eq_ok_iff.mp closed, less, rfl, accepted, fun f => ⟨_, continues f, filled f⟩⟩
  · rintro ⟨closed, less, rfl, accepted, obtains⟩
    choose content continues filled using obtains
    obtain ⟨given, read, contents⟩ : ∃ given, readMembersAfter less [] members = .ok given
        ∧ ∀ f, find? f given = content f := exists_readMembersAfter_iff.mpr ⟨accepted, continues⟩
    refine ⟨less, rfl, given, read, (), endOr_eq_ok_iff.mpr closed, fun f => ?_⟩
    rw [content?, contents f]
    exact filled f

/-! ## Lists -/

/-- Whoever reads the elements of a list reads each as a field. -/
theorem obtains_of_readItemsFrom {stop : Option ListStop} {index : Nat} {given all : Given form}
    {fields : List form.Field} {items : List Node}
    (read : readItemsFrom room stop index given fields items = .ok all)
    (before : ∀ f content, find? f given = some content → ∃ node, form.read f room node = .ok content) :
    ∀ f content, find? f all = some content → ∃ node, form.read f room node = .ok content := by
  induction fields generalizing index given items with
  | nil =>
    cases items with
    | nil =>
      obtain ⟨_, _, same⟩ := bind_eq_ok_iff.mp read
      cases same
      exact before
    | cons => contradiction
  | cons g fields ih =>
    cases items with
    | nil =>
      unfold readItemsFrom at read
      split at read
      · contradiction
      · split at read
        · exact ih read before
        · contradiction
    | cons node rest =>
      obtain ⟨here, readHere, readRest⟩ := bind_eq_ok_iff.mp read
      refine ih readRest fun f content found => ?_
      by_cases same : f = g
      · subst same
        have : here = content := by simpa [find?] using found
        exact ⟨node, this ▸ readHere⟩
      · exact before f content (by rwa [find?_cons_ne same] at found)

/-- Whichever way a record is written, each field has its own node or none. -/
theorem obtains_of_readRecord {node : Node} {v : Filled form}
    (read : form.readRecord room node = .ok v) :
    ∃ less, room = less + 1
      ∧ ∀ f, ∃ node?, Obtains (form.read f) (form.absent f) less node? (v f) := by
  cases node with
  | scalar s => exact absurd read mismatch_ne_ok
  | object members stop =>
    obtain ⟨_, less, enough, _, obtains⟩ := readRecord_object_iff.mp read
    exact ⟨less, enough, fun f => ⟨_, obtains f⟩⟩
  | list items stop =>
    obtain ⟨less, enough, inside⟩ := enter_eq_ok_iff.mp read
    obtain ⟨given, items, filled⟩ := bind_eq_ok_iff.mp inside
    have nodes := obtains_of_readItemsFrom items (fun f content found => by contradiction)
    refine ⟨less, enough, fun f => ?_⟩
    have content := fill_eq_ok_iff.mp filled f
    unfold content? at content
    cases found : find? f given with
    | none =>
      rw [found] at content
      exact ⟨none, content⟩
    | some here =>
      rw [found] at content
      cases content
      obtain ⟨node, read⟩ := nodes f _ found
      exact ⟨some node, read⟩

end RecordForm

end ConnectorSchema.Json
