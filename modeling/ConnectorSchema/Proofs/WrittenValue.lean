import ConnectorSchema.Proofs.MemberOrder
import ConnectorSchema.Proofs.Reading
import ConnectorSchema.Proofs.WrittenNumber

/-!
Values as they are written. `Value.node` is the tree of a value's text, and what has once been read
as a value is read as the same value from that tree (`readValue_node`). Of the doubles in it this has
to be assumed, since rounding decides whether one reads back.
-/

namespace ConnectorSchema

/-- The text of a double, as a document of its own, is read as the same double. -/
def Number.Double.ReadsBack (d : Double) : Prop :=
  Json.read Json.readValue d.jsonText = .ok (.number (.double d))

namespace Json

/-! ## Trees of values -/

def Number.numeral : Number → Numeral
  | .integer n _ => .ofInt n
  | .double d => .ofDouble d

/-- A character as it is written in a string. -/
def charPiece (c : Char) : Piece :=
  if c.toNat < 32 ∧ c ∉ ['\x08', '\x0c', '\n', '\r', '\t'] then .unit c.toNat else .char c

def RawString.ofString (s : String) : RawString := ⟨s.toList.map charPiece, none⟩

mutual

/-- The tree of the text of a value. -/
def Value.node : Value → Node
  | .null => .scalar .null
  | .boolean b => .scalar (.boolean b)
  | .number n => .scalar (.numeral n.numeral)
  | .string s => .scalar (.string (.ofString s))
  | .list items => .list (itemNodes items) none
  | .object members => .object (memberNodes members) none

def itemNodes : List Value → List Node
  | [] => []
  | item :: rest => item.node :: itemNodes rest

def memberNodes : List (String × Value) → List (RawString × Node)
  | [] => []
  | (key, value) :: rest => (.ofString key, value.node) :: memberNodes rest

end

theorem itemNodes_eq_map (items : List Value) : itemNodes items = items.map Value.node := by
  induction items with
  | nil => rfl
  | cons item rest ih => rw [itemNodes, ih, List.map_cons]

theorem memberNodes_eq_map (members : List (String × Value)) :
    memberNodes members = members.map fun m => (.ofString m.1, m.2.node) := by
  induction members with
  | nil => rfl
  | cons m rest ih => rw [memberNodes, ih, List.map_cons]

theorem Number.numeral_speltBy (n : Number) : n.numeral.SpeltBy n.text.toList := by
  cases n with
  | integer n => exact Numeral.ofInt_speltBy n
  | double d => exact Numeral.ofDouble_speltBy d

theorem charPiece_speltBy (c : Char) : (charPiece c).SpeltBy (escapedChar c) := by
  have hex : ∀ n < 32,
      hexUnit? '0' '0' (Nat.digitChar (n / 16)) (Nat.digitChar (n % 16)) = some n := by decide
  unfold escapedChar
  split
  case h_8 noQuote noSlash noBack noFeed noLine noReturn noTab =>
    split
    · rename_i small
      have piece : charPiece c = .unit c.toNat := by
        refine if_pos ⟨small, ?_⟩
        simp only [List.mem_cons, List.not_mem_nil, or_false, not_or]
        exact ⟨noBack, noFeed, noLine, noReturn, noTab⟩
      rw [piece]
      exact .unit (hex c.toNat small)
    · rename_i large
      have piece : charPiece c = .char c := if_neg fun escaped => large escaped.1
      rw [piece]
      exact .plain noQuote noSlash (by omega)
  all_goals exact .escape rfl

theorem piecesSpelt_map (cs : List Char) :
    PiecesSpelt (cs.map charPiece) (cs.flatMap escapedChar) := by
  induction cs with
  | nil => exact .nil
  | cons c rest ih => exact .cons (charPiece_speltBy c) ih

theorem RawString.ofString_speltBy (s : String) : (ofString s).SpeltBy (stringChars s) :=
  ⟨rfl, _, piecesSpelt_map s.toList, rfl⟩

theorem joined_separated (texts : List (List Char)) : Joined texts (separated texts) := by
  cases texts with
  | nil => exact .none Blanks.nil
  | cons text rest => exact .some

mutual

theorem Value.node_speltBy : (v : Value) → v.node.SpeltBy v.chars
  | .null => rfl
  | .boolean true => rfl
  | .boolean false => rfl
  | .number n => n.numeral_speltBy
  | .string s => RawString.ofString_speltBy s
  | .list items => ⟨rfl, _, _, itemNodes_spelt items, joined_separated _, rfl⟩
  | .object members => ⟨rfl, _, _, memberNodes_spelt members, joined_separated _, rfl⟩

theorem itemNodes_spelt : (items : List Value) → ItemsSpelt (itemNodes items) (itemChars items)
  | [] => rfl
  | item :: rest =>
    ⟨[], _, [], _, Blanks.nil, item.node_speltBy, Blanks.nil, itemNodes_spelt rest,
      by simp [itemChars]⟩

theorem memberNodes_spelt : (members : List (String × Value)) →
    MembersSpelt (memberNodes members) (memberChars members)
  | [] => rfl
  | (key, value) :: rest =>
    ⟨[], _, [], [], _, [], _, Blanks.nil, RawString.ofString_speltBy key, Blanks.nil, Blanks.nil,
      value.node_speltBy, Blanks.nil, memberNodes_spelt rest, by simp [memberChars]⟩

end

theorem Value.node_isTextOf (v : Value) : v.node.IsTextOf v.text :=
  ⟨[], v.chars, [], Blanks.nil, v.node_speltBy, Blanks.nil, by simp [Value.text]⟩

theorem scan_text (v : Value) : scan v.text = ⟨v.node, false⟩ := scan_of_isTextOf v.node_isTextOf

/-- A reader of documents sees the tree of the value that was written. -/
theorem read_text {α : Type} (reader : Reader α) (v : Value) :
    read reader v.text = reader nestingLimit v.node := by
  rw [read, scan_text]
  cases reader nestingLimit v.node <;> rfl

/-! ## Reading back -/

mutual

/-- The doubles in a value. -/
def Value.doubles : Value → List Number.Double
  | .number (.double d) => [d]
  | .list items => itemDoubles items
  | .object members => memberDoubles members
  | _ => []

def itemDoubles : List Value → List Number.Double
  | [] => []
  | item :: rest => item.doubles ++ itemDoubles rest

def memberDoubles : List (String × Value) → List Number.Double
  | [] => []
  | (_, value) :: rest => value.doubles ++ memberDoubles rest

end

def Value.DoublesReadBack (v : Value) : Prop := ∀ d ∈ v.doubles, d.ReadsBack

theorem Value.doublesReadBack_list {items : List Value} :
    (list items).DoublesReadBack ↔ ∀ v ∈ items, v.DoublesReadBack := by
  have flat : itemDoubles items = items.flatMap doubles := by
    induction items with
    | nil => rfl
    | cons item rest ih => rw [itemDoubles, ih, List.flatMap_cons]
  simp only [DoublesReadBack, doubles, flat, List.mem_flatMap, forall_exists_index, and_imp]
  exact ⟨fun back v member d inside => back d v member inside,
    fun back d v member inside => back v member d inside⟩

theorem Value.doublesReadBack_object {members : List (String × Value)} :
    (object members).DoublesReadBack ↔ ∀ m ∈ members, m.2.DoublesReadBack := by
  have flat : memberDoubles members = members.flatMap (·.2.doubles) := by
    induction members with
    | nil => rfl
    | cons m rest ih => rw [memberDoubles, ih, List.flatMap_cons]
  simp only [DoublesReadBack, doubles, flat, List.mem_flatMap, forall_exists_index, and_imp]
  exact ⟨fun back m member d inside => back d m member inside,
    fun back d m member inside => back m member d inside⟩

theorem RawString.chars_unit {n : Nat} (small : n < 32) (stop : Option StringFault)
    (rest : List Piece) :
    chars stop (.unit n :: rest) = (chars stop rest).map (Char.ofNat n :: ·) := by
  have noTrail : isTrailingSurrogate n = false := by simp [isTrailingSurrogate]; omega
  have noLead : isLeadingSurrogate n = false := by simp [isLeadingSurrogate]; omega
  cases rest with
  | nil => simp [chars, noTrail, noLead]
  | cons piece rest => cases piece <;> simp [chars, noTrail, noLead]

/-- A string is read back from its pieces. -/
theorem RawString.text_ofString (s : String) : (ofString s).text = .ok s := by
  have charsOf (cs : List Char) : chars none (cs.map charPiece) = .ok cs := by
    induction cs with
    | nil => rfl
    | cons c rest ih =>
      have step : chars none (charPiece c :: rest.map charPiece)
          = (chars none (rest.map charPiece)).map (c :: ·) := by
        unfold charPiece
        split
        · rename_i escaped
          rw [chars_unit escaped.1, Char.ofNat_toNat]
        · rfl
      rw [List.map_cons, step, ih]
      rfl
  rw [text, ofString, charsOf]
  simp [Except.map]

/-- A double is read back just when rounding its own digits gives it again. -/
theorem readsBack_iff {d : Number.Double} :
    d.ReadsBack ↔ (Numeral.ofDouble d).value = .ok (.double d) := by
  have text : d.jsonText = (Value.number (.double d)).text := by
    simp [Value.text, Value.chars, Number.text]
  rw [Number.Double.ReadsBack, text, read_text, Value.node, readValue, map_eq_ok_iff]
  constructor
  · rintro ⟨n, value, same⟩
    rw [Value.number.inj same] at value
    exact liftFault_eq_ok_iff.mp value
  · exact fun value => ⟨_, liftFault_eq_ok_iff.mpr value, rfl⟩

theorem Number.value_numeral {n : Number} (back : (Value.number n).DoublesReadBack) :
    n.numeral.value = .ok n := by
  cases n with
  | integer n inRange => exact Numeral.value_ofInt n inRange
  | double d => exact readsBack_iff.mp (back d List.mem_cons_self)

theorem readItems_itemNodes {room : Nat} {items : List Value}
    (each : ∀ v ∈ items, readValue room v.node = .ok v) :
    readItems room (itemNodes items) = .ok items := by
  induction items with
  | nil => rfl
  | cons item rest ih =>
    rw [itemNodes, readItems, each item List.mem_cons_self,
      ih fun v member => each v (List.mem_cons_of_mem _ member)]
    rfl

theorem readMembers_memberNodes {room : Nat} {members : List (String × Value)}
    (each : ∀ m ∈ members, readValue room m.2.node = .ok m.2) :
    readMembers room (memberNodes members) = .ok members := by
  induction members with
  | nil => rfl
  | cons m rest ih =>
    obtain ⟨key, value⟩ := m
    rw [memberNodes, readMembers, RawString.text_ofString, each (key, value) List.mem_cons_self,
      ih fun m member => each m (List.mem_cons_of_mem _ member)]
    rfl

mutual

/-- A value that was read is read again from its own tree. It is not nested more deeply than what it
was read from, and its members stay in their order. -/
theorem readValue_node : (node : Node) → {room : Nat} → {v : Value} →
    readValue room node = .ok v → v.DoublesReadBack → readValue room v.node = .ok v
  | .scalar s, room, v, read, back => by
    cases s with
    | null | boolean =>
      cases read
      rfl
    | numeral n =>
      obtain ⟨number, _, rfl⟩ := map_eq_ok_iff.mp read
      rw [Value.node, readValue, Number.value_numeral back]
      rfl
    | string s =>
      obtain ⟨text, _, rfl⟩ := map_eq_ok_iff.mp read
      rw [Value.node, readValue, RawString.text_ofString]
      rfl
    | broken b => contradiction
  | .list items stop, room, v, read, back => by
    rw [readValue] at read
    obtain ⟨less, rfl, inside⟩ := enter_eq_ok_iff.mp read
    obtain ⟨values, parts, closed⟩ := bind_eq_ok_iff.mp inside
    obtain ⟨_, _, same⟩ := bind_eq_ok_iff.mp closed
    cases same
    have each := readItems_nodes items parts
    have again : readItems less (itemNodes values) = .ok values :=
      readItems_itemNodes fun v member => each v member (Value.doublesReadBack_list.mp back v member)
    simp only [Value.node, readValue, enter, again]
    rfl
  | .object members stop, room, v, read, back => by
    rw [readValue] at read
    obtain ⟨less, rfl, inside⟩ := enter_eq_ok_iff.mp read
    obtain ⟨values, parts, closed⟩ := bind_eq_ok_iff.mp inside
    obtain ⟨_, _, same⟩ := bind_eq_ok_iff.mp closed
    cases same
    -- What is written is the sorted list, whose members are among those read.
    have each := readMembers_nodes members parts
    have again : readMembers less (memberNodes (sortMembers values)) = .ok (sortMembers values) :=
      readMembers_memberNodes fun m member =>
        each m (mem_of_mem_sortMembers member) (Value.doublesReadBack_object.mp back m member)
    have sorted := sortMembers_of_increase (sortMembers_increase values)
    simp only [Value.node, readValue, enter, again]
    exact congrArg (fun members => Except.ok (Value.object members)) sorted

theorem readItems_nodes : (items : List Node) → {room : Nat} → {values : List Value} →
    readItems room items = .ok values →
    ∀ v ∈ values, v.DoublesReadBack → readValue room v.node = .ok v
  | [], room, values, read => by
    cases read
    exact fun _ member => absurd member List.not_mem_nil
  | item :: rest, room, values, read => by
    rw [readItems] at read
    obtain ⟨value, first, others⟩ := bind_eq_ok_iff.mp read
    obtain ⟨later, readLater, same⟩ := bind_eq_ok_iff.mp others
    cases same
    intro v member back
    rcases List.mem_cons.mp member with rfl | inLater
    · exact readValue_node item first back
    · exact readItems_nodes rest readLater v inLater back

theorem readMembers_nodes : (members : List (RawString × Node)) → {room : Nat} →
    {values : List (String × Value)} → readMembers room members = .ok values →
    ∀ m ∈ values, m.2.DoublesReadBack → readValue room m.2.node = .ok m.2
  | [], room, values, read => by
    cases read
    exact fun _ member => absurd member List.not_mem_nil
  | (key, node) :: rest, room, values, read => by
    rw [readMembers] at read
    obtain ⟨name, _, inside⟩ := bind_eq_ok_iff.mp read
    obtain ⟨value, first, others⟩ := bind_eq_ok_iff.mp inside
    obtain ⟨later, readLater, same⟩ := bind_eq_ok_iff.mp others
    cases same
    intro m member back
    rcases List.mem_cons.mp member with rfl | inLater
    · exact readValue_node node first back
    · exact readMembers_nodes rest readLater m inLater back

end

end Json

end ConnectorSchema
