import ConnectorSchema.Proofs.DoubleValue
import ConnectorSchema.Proofs.Except
import ConnectorSchema.Proofs.WrittenInteger
import ConnectorSchema.Schema.EntryAttribute

/-!
Which entries have an attribute of their own. `Attribute.ofEntry_ok_iff` gives the attribute in terms
of its default and its validator, and `Attribute.ofEntry_cases` says when there is one and what is
wrong otherwise.
-/

namespace ConnectorSchema

/-- The list and object defaults that an editor of JSON may carry. -/
def Literal.isStructured : Literal → Bool
  | .list _ | .object _ => true
  | .boolean _ | .integer _ | .double _ | .string _ => false

/-- A default that is read as a word: an integer, a double that passes for one, or a text that holds
one. -/
def Literal.GivesWord : Literal → Prop
  | .integer _ => True
  | .double d => d.PassesForWord
  | .string s => ∃ k, Number.HoldsWord s k
  | .boolean _ | .list _ | .object _ => False

/-- A default that is read as a truth value: one of these, or its name in whatever case. -/
def Literal.GivesBoolean : Literal → Prop
  | .boolean _ => True
  | .string s => s.toList.map Char.toLower = "true".toList ∨ s.toList.map Char.toLower = "false".toList
  | .integer _ | .double _ | .list _ | .object _ => False

/-- Whether a default is one for a control. An editor of JSON takes them all; where several values are
selected, or nobody knows what for, the default is not looked at. -/
def Literal.Fits (l : Literal) : Control → Prop
  | .string | .password | .textarea | .datetime | .oneSelect => ¬ l.isStructured
  | .number | .slider => l.GivesWord
  | .boolean | .toggle => l.GivesBoolean
  | .json | .multiSelect | .other _ => True

/-- What is entered with the control is a text. -/
def Control.EntersText (c : Control) : Prop :=
  c ∉ [.number, .slider, .boolean, .toggle, .multiSelect]

theorem ValueKind.ofControl_eq_string_iff {c : Control} : ofControl c = .string ↔ c.EntersText := by
  cases c <;> simp [ofControl, Control.EntersText]

/-- The value of a kind that a default as written stands for, lists and objects in editors of JSON
aside. -/
def Literal.counterpart? (l : Literal) : ValueKind → Option Default
  | .string => l.string?.map .string
  | .int64 => l.int64?.map .int64
  | .bool => l.boolean?.map .bool
  | .stringList => none

/-- What a failed conversion to a kind says it was looking for. -/
def ValueKind.target : ValueKind → Target
  | .string | .stringList => .string
  | .int64 => .integer
  | .bool => .boolean

namespace Entry

def kind (e : Entry) : ValueKind := ValueKind.ofControl e.input.control

def attributeName (e : Entry) : String := Naming.attributeName e.name

def fieldName (e : Entry) : String := Naming.pascal e.attributeName

/-- Whether the default of an entry matters: a list has none, and for an unknown control nobody can
tell what it means. -/
def readsDefault (e : Entry) : Bool := e.input.control.isKnown && e.kind.admitsDefault

/-- The default of an entry, if it has one, is one for its control. -/
def DefaultConverts (e : Entry) : Prop :=
  ∀ l, e.input.defaultValue = some l → l.Fits e.input.control

/-- Only texts are secrets. -/
def SecretIsText (e : Entry) : Prop :=
  e.encrypt ∨ e.input.control = .password → e.input.control.EntersText

/-- The bounds of a slider that has both of them pass for words. -/
def BoundsConvert (e : Entry) : Prop :=
  e.input.control = .slider → ∀ low high, e.input.min = some low → e.input.max = some high →
    low.PassesForWord ∧ high.PassesForWord

/-- What an entry must satisfy to have an attribute, whatever the other entries are. -/
structure Converts (e : Entry) : Prop where
  default : e.DefaultConverts
  secret : e.SecretIsText
  bounds : e.BoundsConvert

/-- The first of the checks that an entry fails on its own: the default, then the secret, then the
lower bound and then the upper one. -/
inductive Unconvertible (e : Entry) : Violation → Prop
  | default {l} : e.input.defaultValue = some l → ¬ e.DefaultConverts →
      Unconvertible e (.conversion ⟨.literal l, e.kind.target⟩)
  | secret : e.DefaultConverts → ¬ e.SecretIsText →
      Unconvertible e (.encryptedControl e.input.control)
  | lowerBound {low high} : e.DefaultConverts → e.SecretIsText → e.input.control = .slider →
      e.input.min = some low → e.input.max = some high → ¬ low.PassesForWord →
      Unconvertible e (.conversion ⟨.bound "min" low, .integer⟩)
  | upperBound {low high} : e.DefaultConverts → e.SecretIsText → e.input.control = .slider →
      e.input.min = some low → e.input.max = some high → low.PassesForWord →
      ¬ high.PassesForWord → Unconvertible e (.conversion ⟨.bound "max" high, .integer⟩)

theorem Unconvertible.not_converts {e : Entry} {v : Violation} (fails : e.Unconvertible v) :
    ¬ e.Converts := by
  intro all
  cases fails with
  | default _ fails => exact fails all.default
  | secret _ exposed => exact exposed all.secret
  | lowerBound _ _ slider atMin atMax fails => exact fails (all.bounds slider _ _ atMin atMax).1
  | upperBound _ _ slider atMin atMax _ fails => exact fails (all.bounds slider _ _ atMin atMax).2

end Entry

theorem Literal.counterpart?_kind {l : Literal} {kind : ValueKind} {d : Default}
    (found : l.counterpart? kind = some d) : d.kind = kind := by
  cases kind with
  | stringList => simp [counterpart?] at found
  | string | int64 | bool =>
    obtain ⟨value, _, rfl⟩ := Option.map_eq_some_iff.mp found
    rfl

namespace Literal

theorem isSome_string?_iff {l : Literal} : l.string?.isSome ↔ ¬ l.isStructured := by
  cases l <;> simp [string?, isStructured]

theorem isSome_int64?_iff {l : Literal} : l.int64?.isSome ↔ l.GivesWord := by
  cases l with
  | double d => exact Number.Double.isSome_toInt64?_iff
  | string s => simp [int64?, GivesWord, Option.isSome_iff_exists, Number.readInt64?_eq_some_iff]
  | integer | boolean | list | object => simp [int64?, GivesWord]

theorem isSome_boolean?_iff {l : Literal} : l.boolean?.isSome ↔ l.GivesBoolean := by
  cases l with
  | string s =>
    have names : "true".toList = ['t', 'r', 'u', 'e'] ∧ "false".toList = ['f', 'a', 'l', 's', 'e'] :=
      ⟨rfl, rfl⟩
    simp only [boolean?, GivesBoolean, names]
    split
    · rename_i isTrue
      simp [isTrue]
    · rename_i notTrue
      split <;> simp_all
  | integer | boolean | double | list | object => simp [boolean?, GivesBoolean]

/-- The default fits exactly when it does not matter or stands for a value of the kind. -/
theorem fits_iff {l : Literal} {c : Control} :
    l.Fits c ↔ (c.isKnown && (ValueKind.ofControl c).admitsDefault →
      c = .json ∧ l.isStructured ∨ (l.counterpart? (ValueKind.ofControl c)).isSome) := by
  cases c with
  | json =>
    have either := isSome_string?_iff (l := l)
    by_cases structured : l.isStructured <;>
      simp_all [Fits, counterpart?, ValueKind.ofControl, Option.isSome_map]
  | string | password | textarea | datetime | oneSelect =>
    simpa [Fits, counterpart?, ValueKind.ofControl, Control.isKnown, ValueKind.admitsDefault]
      using (isSome_string?_iff (l := l)).symm
  | number | slider =>
    simp [Fits, counterpart?, ValueKind.ofControl, Control.isKnown, ValueKind.admitsDefault,
      ← isSome_int64?_iff]
  | boolean | toggle =>
    simp [Fits, counterpart?, ValueKind.ofControl, Control.isKnown, ValueKind.admitsDefault,
      ← isSome_boolean?_iff]
  | multiSelect | other => simp [Fits, ValueKind.ofControl, Control.isKnown, ValueKind.admitsDefault]

end Literal

theorem Entry.defaultConverts_iff {e : Entry} : e.DefaultConverts ↔
    ∀ l, e.input.defaultValue = some l → e.readsDefault →
      e.input.control = .json ∧ l.isStructured ∨ (l.counterpart? e.kind).isSome :=
  forall_congr' fun _ => imp_congr_right fun _ => Literal.fits_iff

namespace Default

theorem given?_absent {e : Entry} (absent : e.input.defaultValue = none ∨ ¬ e.readsDefault) :
    given? e.kind e = .ok none := by
  rcases absent with absent | unread
  · simp [given?, absent]
  · have passed : (e.input.defaultValue.isNone || !e.kind.admitsDefault
        || !e.input.control.isKnown) = true := by
      simp only [Entry.readsDefault, Bool.and_eq_true, not_and, Bool.not_eq_true] at unread
      cases known : e.input.control.isKnown <;> simp_all
    simp only [given?, passed, if_true]

/-- A list or an object becomes text in an editor of JSON. -/
theorem given?_structured {e : Entry} {l : Literal} (written : e.input.defaultValue = some l)
    (json : e.input.control = .json) (structured : l.isStructured) :
    ∃ s, given? e.kind e = .ok (some (.string s)) := by
  have kind : e.kind = .string := by rw [Entry.kind, json]; rfl
  cases l with
  | list | object => simp [given?, written, kind, json, ValueKind.admitsDefault, Control.isKnown]
  | boolean | integer | double | string => simp [Literal.isStructured] at structured

theorem given?_counterpart {e : Entry} {l : Literal} (written : e.input.defaultValue = some l)
    (read : e.readsDefault) (plain : ¬ (e.input.control = .json ∧ l.isStructured)) :
    given? e.kind e
      = match l.counterpart? e.kind with
        | some d => .ok (some d)
        | none => .error (.entry e.name (.conversion ⟨.literal l, e.kind.target⟩)) := by
  obtain ⟨known, admits⟩ := Bool.and_eq_true_iff.mp read
  cases kind : e.kind with
  | stringList => simp [kind, ValueKind.admitsDefault] at admits
  | int64 =>
    cases found : l.int64? <;>
      simp [given?, written, known, ValueKind.admitsDefault, Input.defaultInt64?, Literal.convert,
        Literal.counterpart?, found, Problem.forEntry, ValueKind.target]
  | bool =>
    cases found : l.boolean? <;>
      simp [given?, written, known, ValueKind.admitsDefault, Input.defaultBoolean?,
        Literal.convert, Literal.counterpart?, found, Problem.forEntry, ValueKind.target]
  | string =>
    simp only [given?, written, known, ValueKind.admitsDefault, Option.isNone_some, Bool.not_true,
      Bool.or_self, Bool.false_eq_true, if_false]
    split
    · rename_i json list
      exact absurd ⟨json, by rw [Option.some.inj list]; rfl⟩ plain
    · rename_i json object
      exact absurd ⟨json, by rw [Option.some.inj object]; rfl⟩ plain
    · cases found : l.string? <;>
        simp [Input.defaultString?, written, Literal.convert, Literal.counterpart?, found,
          Problem.forEntry, ValueKind.target]

/-- The default of an attribute is found exactly when the default as written converts. What is found
is of the attribute's kind, and it is found only where something was written. -/
theorem given?_cases (e : Entry) :
    (e.DefaultConverts ∧ ∃ default?, given? e.kind e = .ok default?
        ∧ ∀ d, default? = some d → e.input.defaultValue.isSome ∧ d.kind = e.kind)
      ∨ ¬ e.DefaultConverts ∧ ∃ l, e.input.defaultValue = some l
        ∧ given? e.kind e = .error (.entry e.name (.conversion ⟨.literal l, e.kind.target⟩)) := by
  rw [Entry.defaultConverts_iff]
  by_cases absent : e.input.defaultValue = none ∨ ¬ e.readsDefault
  · refine Or.inl ⟨fun l written read => ?_, none, given?_absent absent, by simp⟩
    rcases absent with absent | unread
    · rw [absent] at written
      contradiction
    · exact absurd read unread
  obtain ⟨present, read⟩ := not_or.mp absent
  obtain ⟨l, written⟩ := Option.ne_none_iff_exists'.mp present
  have read : e.readsDefault := by simpa using read
  by_cases structured : e.input.control = .json ∧ l.isStructured
  · obtain ⟨s, found⟩ := given?_structured written structured.1 structured.2
    refine Or.inl ⟨fun l' written' _ => Or.inl ?_, some (.string s), found, ?_⟩
    · rwa [← Option.some.inj (written.symm.trans written')]
    · rintro _ ⟨⟩
      exact ⟨by rw [written]; rfl, by rw [Entry.kind, structured.1]; rfl⟩
  · have result := given?_counterpart written read structured
    cases found : l.counterpart? e.kind with
    | some d =>
      rw [found] at result
      refine Or.inl ⟨fun l' written' _ => Or.inr ?_, some d, result, ?_⟩
      · rw [← Option.some.inj (written.symm.trans written'), found, Option.isSome_some]
      · rintro _ ⟨⟩
        exact ⟨by rw [written]; rfl, Literal.counterpart?_kind found⟩
    | none =>
      rw [found] at result
      refine Or.inr ⟨fun converts => ?_, l, written, result⟩
      rcases converts l written read with json | counterpart
      · exact structured json
      · simp [found] at counterpart

theorem isSome_of_given {e : Entry} {d : Default} (found : given? e.kind e = .ok (some d)) :
    e.input.defaultValue.isSome := by
  rcases given?_cases e with ⟨_, default?, result, facts⟩ | ⟨_, l, _, failed⟩
  · exact (facts d (Except.ok.inj (result.symm.trans found))).1
  · rw [failed] at found
    contradiction

theorem kind_of_given {e : Entry} {d : Default} (found : given? e.kind e = .ok (some d)) :
    d.kind = e.kind := by
  rcases given?_cases e with ⟨_, default?, result, facts⟩ | ⟨_, l, _, failed⟩
  · exact (facts d (Except.ok.inj (result.symm.trans found))).2
  · rw [failed] at found
    contradiction

end Default

/-- Bounds are asked for in order, so a lower bound that does not convert hides the upper one. -/
theorem Validator.given?_cases (e : Entry) :
    (e.BoundsConvert ∧ ∃ validator?, Validator.given? e = .ok validator?)
      ∨ ∃ low high, e.input.control = .slider ∧ e.input.min = some low ∧ e.input.max = some high
        ∧ ((¬ low.PassesForWord ∧ Validator.given? e
              = .error (.entry e.name (.conversion ⟨.bound "min" low, .integer⟩)))
          ∨ (low.PassesForWord ∧ ¬ high.PassesForWord ∧ Validator.given? e
              = .error (.entry e.name (.conversion ⟨.bound "max" high, .integer⟩)))) := by
  by_cases slider : e.input.control = .slider
  case neg =>
    refine Or.inl ⟨fun isSlider => absurd isSlider slider, ?_⟩
    unfold given?
    split <;> simp_all
  cases atMin : e.input.min with
  | none =>
    refine Or.inl ⟨fun _ low high hasLow => by simp [atMin] at hasLow, none, ?_⟩
    simp [given?, slider, Input.hasRange, atMin]
  | some low =>
    cases atMax : e.input.max with
    | none =>
      refine Or.inl ⟨fun _ low high _ hasHigh => by simp [atMax] at hasHigh, none, ?_⟩
      simp [given?, slider, Input.hasRange, atMax]
    | some high =>
      cases lowWord : low.toInt64? with
      | none =>
        refine Or.inr ⟨low, high, slider, rfl, rfl, Or.inl ⟨?_, ?_⟩⟩
        · simp [← Number.Double.isSome_toInt64?_iff, lowWord]
        · simp [given?, slider, Input.hasRange, atMin, atMax, Input.sliderMin, Input.bound, lowWord,
            Problem.forEntry]
      | some min =>
        have lowPasses := Number.Double.isSome_toInt64?_iff.mp (Option.isSome_of_eq_some lowWord)
        cases highWord : high.toInt64? with
        | none =>
          refine Or.inr ⟨low, high, slider, rfl, rfl, Or.inr ⟨lowPasses, ?_, ?_⟩⟩
          · simp [← Number.Double.isSome_toInt64?_iff, highWord]
          · simp [given?, slider, Input.hasRange, atMin, atMax, Input.sliderMin, Input.sliderMax,
              Input.bound, lowWord, highWord, Problem.forEntry]
        | some max =>
          refine Or.inl ⟨fun _ l h atL atH => ?_, some (.between min max), ?_⟩
          · rw [← Option.some.inj (atMin.symm.trans atL), ← Option.some.inj (atMax.symm.trans atH)]
            exact ⟨lowPasses,
              Number.Double.isSome_toInt64?_iff.mp (Option.isSome_of_eq_some highWord)⟩
          · simp [given?, slider, Input.hasRange, atMin, atMax, Input.sliderMin, Input.sliderMax,
              Input.bound, lowWord, highWord]

/-- The attribute of an entry whose default and validator are known. -/
def Entry.attribute (e : Entry) (default? : Option Default) (validator? : Option Validator) :
    Attribute where
  fieldName := e.fieldName
  name := e.attributeName
  apiName := e.name
  kind := e.kind
  presence := e.presence default?
  sensitive := e.isSensitive
  description := e.describe default? e.isSensitive
  markdown := e.describeMarkdown default? e.isSensitive
  default? := default?
  validator? := validator?
  stateForUnknown := false
  requiresReplace := e.setOnce

theorem Entry.secretIsText_iff_kind {e : Entry} :
    e.SecretIsText ↔ (e.isSensitive → e.kind = .string) := by
  rw [SecretIsText, ← ValueKind.ofControl_eq_string_iff]
  simp [isSensitive, kind]

theorem Entry.secretIsText_iff {e : Entry} :
    e.SecretIsText ↔ ¬ (e.isSensitive ∧ e.kind ≠ .string) := by
  simp [secretIsText_iff_kind]

theorem Entry.presence_ne_computed (e : Entry) (default? : Option Default) :
    e.presence default? ≠ .computed := by
  unfold presence
  split
  · exact Presence.noConfusion
  · split <;> exact Presence.noConfusion

theorem Entry.presence_of_default {e : Entry} (d : Default) (written : e.input.defaultValue.isSome) :
    e.presence (some d) = .optionalComputed := by
  simp [presence, Option.isSome_iff_ne_none.mp written]

namespace Attribute

theorem ofEntry_eq (e : Entry) :
    ofEntry e = Default.given? e.kind e >>= fun default? =>
      if e.isSensitive ∧ e.kind ≠ .string then
        .error (.entry e.name (.encryptedControl e.input.control))
      else Validator.given? e >>= fun validator? => .ok (e.attribute default? validator?) := by
  unfold ofEntry
  refine congrArg (Default.given? e.kind e >>= ·) (funext fun default? => ?_)
  by_cases exposed : e.isSensitive ∧ e.kind ≠ .string
  · rw [if_pos exposed]
    exact if_pos exposed
  · rw [if_neg exposed]
    exact if_neg exposed

theorem ofEntry_ok_iff {e : Entry} {a : Attribute} :
    ofEntry e = .ok a ↔ e.SecretIsText ∧ ∃ default? validator?,
      Default.given? e.kind e = .ok default? ∧ Validator.given? e = .ok validator?
        ∧ a = e.attribute default? validator? := by
  rw [ofEntry_eq, bind_eq_ok_iff]
  constructor
  · rintro ⟨default?, found, rest⟩
    split at rest
    · contradiction
    · rename_i hidden
      obtain ⟨validator?, admitted, same⟩ := bind_eq_ok_iff.mp rest
      exact ⟨Entry.secretIsText_iff.mpr hidden, default?, validator?, found, admitted,
        (Except.ok.inj same).symm⟩
  · rintro ⟨secret, default?, validator?, found, admitted, rfl⟩
    refine ⟨default?, found, ?_⟩
    rw [if_neg (Entry.secretIsText_iff.mp secret), admitted]
    rfl

theorem name_of_ofEntry {e : Entry} {a : Attribute} (found : ofEntry e = .ok a) :
    a.name = e.attributeName := by
  obtain ⟨_, _, _, _, _, rfl⟩ := ofEntry_ok_iff.mp found
  rfl

theorem fieldName_of_ofEntry {e : Entry} {a : Attribute} (found : ofEntry e = .ok a) :
    a.fieldName = e.fieldName := by
  obtain ⟨_, _, _, _, _, rfl⟩ := ofEntry_ok_iff.mp found
  rfl

/-- An entry that converts has an attribute. Any other one has none, and what is reported is the
first of its own checks that it fails. -/
theorem ofEntry_cases (e : Entry) :
    (e.Converts ∧ ∃ a, ofEntry e = .ok a)
      ∨ ∃ v, e.Unconvertible v ∧ ofEntry e = .error (.entry e.name v) := by
  rw [ofEntry_eq]
  rcases Default.given?_cases e with ⟨converts, default?, found, _⟩ | ⟨fails, l, written, failed⟩
  case inr =>
    refine Or.inr ⟨_, .default written fails, ?_⟩
    rw [failed]
    rfl
  rw [found]
  by_cases secret : e.SecretIsText
  case neg =>
    have exposed := Decidable.not_not.mp fun hidden => secret (Entry.secretIsText_iff.mpr hidden)
    exact Or.inr ⟨_, .secret converts secret, if_pos exposed⟩
  have hidden := Entry.secretIsText_iff.mp secret
  rcases Validator.given?_cases e with ⟨bounds, validator?, admitted⟩ |
    ⟨low, high, slider, atMin, atMax, failed⟩
  · refine Or.inl ⟨⟨converts, secret, bounds⟩, e.attribute default? validator?, ?_⟩
    exact (if_neg hidden).trans (by rw [admitted]; rfl)
  · rcases failed with ⟨lowFails, failed⟩ | ⟨lowWord, highFails, failed⟩
    · refine Or.inr ⟨_, .lowerBound converts secret slider atMin atMax lowFails, ?_⟩
      exact (if_neg hidden).trans (by rw [failed]; rfl)
    · refine Or.inr ⟨_, .upperBound converts secret slider atMin atMax lowWord highFails, ?_⟩
      exact (if_neg hidden).trans (by rw [failed]; rfl)

/-- The attribute of an entry keeps all the rules between its parts, so the check that follows never
stops a document. -/
theorem violation?_ofEntry {e : Entry} {a : Attribute} (found : ofEntry e = .ok a) :
    a.violation? = none := by
  obtain ⟨secret, default?, validator?, hasDefault, _, rfl⟩ := ofEntry_ok_iff.mp found
  have hidden := Entry.secretIsText_iff.mp secret
  have notComputed : e.presence default? ≠ .computed := Entry.presence_ne_computed e default?
  cases default? with
  | none => simp [violation?, Entry.attribute, notComputed, hidden]
  | some d =>
    have optional := Entry.presence_of_default d (Default.isSome_of_given hasDefault)
    have kind := Default.kind_of_given hasDefault
    simp [violation?, Entry.attribute, optional, kind, hidden]

end Attribute

theorem Entry.converts_of_isOk {e : Entry} (isOk : (Attribute.ofEntry e).isOk) : e.Converts := by
  rcases Attribute.ofEntry_cases e with ⟨converts, _⟩ | ⟨_, _, failed⟩
  · exact converts
  · rw [failed] at isOk
    contradiction

end ConnectorSchema
