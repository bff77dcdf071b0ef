import ConnectorSchema.Proofs.AttributeBlock
import ConnectorSchema.Proofs.Rounding
import ConnectorSchema.Proofs.WrittenFields

/-!
The bounds of a slider, from the integers that a document has for them to the validator in the file. A
bound is a double on the way, so a word without a double of its own becomes the word nearest to it
(`Model.sliderBounds_of_document`). Up to 53 bits every word keeps its value.
-/

namespace ConnectorSchema

open Number Json

/-- The numeral is an integer, with neither a point nor an exponent. -/
structure Json.Numeral.WritesInteger (n : Numeral) (a : ℤ) : Prop where
  unpointed : n.fraction = []
  plain : n.exponent = none
  value : a = if n.negative then -(ofDigits n.whole : ℤ) else ofDigits n.whole

/-- An integer is read as the double nearest to it. -/
theorem Json.isNearest_of_readDouble {room : ℕ} {n : Numeral} {a : Int64} {d : Double}
    (writes : n.WritesInteger a.toInt) (read : readDouble room (.scalar (.numeral n)) = .ok d) :
    d.IsNearest a.toInt := by
  obtain ⟨number, value, rounded⟩ := bind_eq_ok_iff.mp read
  have value := liftFault_eq_ok_iff.mp value
  have rounded : number.toDouble? = some d := by
    split at rounded
    · rename_i same
      rw [same, Except.ok.inj rounded]
    · contradiction
  have low := a.le_toInt
  have high := a.toInt_lt
  have fits : ofDigits n.whole ≤ 18446744073709551615 := by
    have same := writes.value
    split at same <;> omega
  unfold Numeral.value at value
  rw [Numeral.significand_of_integer writes.unpointed writes.plain fits] at value
  simp only at value
  split at value
  · cases value
    rw [writes.value]
    exact Double.isNearest_of_ofInt? rounded
  · -- the one integer without a number of its own is zero with a minus
    rename_i inexact
    have minusZero : n.negative = true ∧ ofDigits n.whole = 0 := by
      have same := writes.value
      by_contra other
      refine inexact ⟨writes.unpointed, writes.plain, trivial, fits, fun negative => ?_⟩
      rw [if_pos negative] at same
      have positive : ofDigits n.whole ≠ 0 := fun zero => other ⟨negative, zero⟩
      omega
    rw [minusZero.2] at value
    cases value
    cases rounded
    have zero : (a.toInt : ℚ)
        = (if n.negative then (Double.zero false).negate else .zero false).value := by
      rw [writes.value, minusZero.1, minusZero.2]
      simp [Double.value, Double.zero, Double.negate]
    rw [zero]
    exact Double.isNearest_value _

namespace Number.Double

/-- The word that is left of a word once it has been rounded to a double. Nothing is said of what
becomes of the largest words, which are rounded to the integer behind them all. -/
structure Leaves (a word : Int64) : Prop where
  nearest : ∃ d : Double, d.IsNearest a.toInt ∧ (d.value ≠ 2 ^ 63 → d.value = word.toInt)
  exact : (∃ d : Double, d.value = a.toInt) → word = a
  small : |a.toInt| ≤ 2 ^ 53 → word = a

theorem exists_value_eq_two_pow_63 : ∃ d : Double, d.value = 2 ^ 63 :=
  ⟨⟨false, 4503599627370496, 11, by decide⟩, by norm_num [value]⟩

/-- The double nearest to a word passes for a word. -/
theorem IsNearest.exists_word {a : Int64} {d : Double} (nearest : d.IsNearest a.toInt) :
    ∃ word, d.toInt64? = some word ∧ Leaves a word := by
  have low := a.le_toInt
  have high := a.toInt_lt
  obtain ⟨next, atNext⟩ := exists_value_eq_two_pow_63
  obtain ⟨n, whole⟩ := nearest.exists_int
  have inRange : InRange n := by
    have above := nearest.le_of_le (e := next) (by rw [atNext]; exact_mod_cast high.le)
    have below := nearest.ge_of_ge (e := next.negate)
      (by rw [value_negate, atNext]; exact_mod_cast low)
    rw [whole, atNext] at above
    rw [whole, value_negate, atNext] at below
    exact ⟨by exact_mod_cast below, by exact_mod_cast above⟩
  obtain ⟨word, found⟩ : ∃ word, d.toInt64? = some word := by
    refine Option.ne_none_iff_exists'.mp fun none => ?_
    exact toInt64?_eq_none_iff.mp none n whole inRange
  have stands := toInt64?_eq_some_iff.mp found
  have exact : (∃ e : Double, e.value = a.toInt) → word = a := by
    rintro ⟨e, same⟩
    have same := nearest.eq_of_value same
    rcases stands with value | ⟨value, _⟩
    · exact Int64.toInt_inj.mp (by exact_mod_cast value.symm.trans same)
    · have past : a.toInt = 2 ^ 63 := by exact_mod_cast same.symm.trans value
      omega
  refine ⟨word, found, ⟨d, nearest, fun inside => ?_⟩, exact, fun small => exact (exists_value_eq small)⟩
  exact stands.resolve_right fun last => inside last.1

end Number.Double

/-- A slider with two bounds that have words admits what lies between these. -/
theorem Validator.given?_slider {e : Entry} {low high : Double} {min max : Int64}
    (slider : e.input.control = .slider) (atMin : e.input.min = some low)
    (atMax : e.input.max = some high) (lowWord : low.toInt64? = some min)
    (highWord : high.toInt64? = some max) :
    Validator.given? e = .ok (some (.between min max)) := by
  simp [given?, slider, Input.hasRange, atMin, atMax, Input.sliderMin, Input.sliderMax,
    Input.bound, lowWord, highWord]

theorem Go.text_between (min max : Int64) :
    Line.text (.code "\t\t\t\t\t" :: validatorSegments .int64 (.between min max) ++ [.code ","])
      = "\t\t\t\t\tint64validator.Between(" ++ toString min.toInt ++ ", " ++ toString max.toInt
        ++ ")," := by
  have opening : "\t\t\t\t\tint64validator.Between(" = "\t\t\t\t\t" ++ "int64validator.Between(" := by
    decide
  simp only [opening, Line.text, Segment.text, validatorSegments, packageStem, List.cons_append,
    List.nil_append, List.map_cons, List.map_nil, String.join_cons, String.join_nil,
    String.append_assoc, String.append_empty]
  rfl

/-- A bound of an input comes from the integer that the text has for it. -/
theorem Json.exists_word_of_readOptional {room : ℕ} {n : Numeral} {a : Int64} {bound : Option Double}
    (writes : n.WritesInteger a.toInt)
    (read : readOptional readDouble room (.scalar (.numeral n)) = .ok bound) :
    ∃ d word, bound = some d ∧ d.toInt64? = some word ∧ Double.Leaves a word := by
  rcases readOptional_eq_ok_iff.mp read with ⟨absent, _⟩ | ⟨_, d, readDouble, same⟩
  · cases absent
  · obtain ⟨word, found, leaves⟩ := (isNearest_of_readDouble writes readDouble).exists_word
    exact ⟨d, word, same, found, leaves⟩

/-- The text has these integers for the bounds of the entry number `i`. -/
def Document.BoundsAt (text : String) (i : ℕ) (a b : ℤ) : Prop :=
  ∃ input low high, InputAt text i input
    ∧ Input.form.WrittenAt .min input (.scalar (.numeral low)) ∧ low.WritesInteger a
    ∧ Input.form.WrittenAt .max input (.scalar (.numeral high)) ∧ high.WritesInteger b

/-- The integers that a document has for the bounds of a slider are those of the validator in the file,
each as rounding it to a double leaves it. -/
theorem Model.sliderBounds_of_document {text : String} {d : Document} {kind : EntityKind}
    {code : String} {m : Model} {i : ℕ} {e : Entry} {a b : Int64}
    (found : Document.ofJson text = .ok d) (accepted : Model.ofDocument kind code d = .ok m)
    (place : d.entries[i]? = some e) (kept : e ∈ d.keptEntries kind)
    (slider : e.input.control = .slider) (written : Document.BoundsAt text i a.toInt b.toInt) :
    ∃ x ∈ m.attributes, Attribute.ofEntry e = .ok x ∧ ∃ min max : Int64,
      x.validator? = some (.between min max) ∧ Double.Leaves a min ∧ Double.Leaves b max
        ∧ Go.Shows m x ("\t\t\t\t\tint64validator.Between(" ++ toString min.toInt ++ ", "
          ++ toString max.toInt ++ "),") := by
  obtain ⟨input, low, high, atInput, atMin, writesMin, atMax, writesMax⟩ := written
  obtain ⟨v, fields, read⟩ := Document.read_of_inputAt found place atInput
  obtain ⟨_, _, readMin⟩ := read _ _ atMin
  obtain ⟨_, _, readMax⟩ := read _ _ atMax
  obtain ⟨least, min, hasMin, lowWord, leavesMin⟩ := exists_word_of_readOptional writesMin readMin
  obtain ⟨greatest, max, hasMax, highWord, leavesMax⟩ := exists_word_of_readOptional writesMax readMax
  have between : Validator.given? e = .ok (some (.between min max)) :=
    Validator.given?_slider slider (by rw [fields]; exact hasMin) (by rw [fields]; exact hasMax)
      lowWord highWord
  obtain ⟨x, member, ofEntry⟩ := Model.exists_attribute accepted kept
  obtain ⟨ofKind, _, admits⟩ := Attribute.clauses_of_ofEntry ofEntry
  have validator : x.validator? = some (.between min max) := Except.ok.inj (admits.symm.trans between)
  have type : x.kind = .int64 := ofKind.trans (congrArg ValueKind.ofControl slider)
  have line := Go.shows_validator member validator
  rw [type, Go.text_between] at line
  exact ⟨x, member, ofEntry, min, max, validator, leavesMin, leavesMax, line⟩

theorem Json.Numeral.writesInteger_ofInt (n : ℤ) : (ofInt n).WritesInteger n := by
  refine ⟨rfl, rfl, ?_⟩
  have digits : ofDigits (ofInt n).whole = n.natAbs := ofDigits_toDigits n.natAbs
  rw [digits]
  simp only [ofInt, decide_eq_true_eq]
  split <;> omega

/-- The members of the input of a slider with these bounds. -/
def Input.sliderMembers (a b : Int64) : List (String × Value) :=
  [("control", .string "slider"), ("min", .number (.ofInt64 a)), ("max", .number (.ofInt64 b))]

theorem Document.boundsAt_single (a b : Int64) :
    BoundsAt (single (Input.sliderMembers a b)).text 0 a.toInt b.toInt :=
  ⟨_, .ofInt a.toInt, .ofInt b.toInt, inputAt_single _,
    writtenAt_node (List.mem_cons_of_mem _ List.mem_cons_self) rfl, Numeral.writesInteger_ofInt _,
    writtenAt_node (List.mem_cons_of_mem _ (List.mem_cons_of_mem _ List.mem_cons_self)) rfl,
    Numeral.writesInteger_ofInt _⟩

/-- A small bound keeps its value. -/
theorem Model.sliderBounds_of_document_small :
    ∃ d m, Document.ofJson (Document.single (Input.sliderMembers (-3) 10)).text = .ok d
      ∧ Model.ofDocument .source "pg" d = .ok m
      ∧ ∃ x ∈ m.attributes, x.validator? = some (.between (-3) 10)
        ∧ Go.Shows m x "\t\t\t\t\tint64validator.Between(-3, 10)," := by
  obtain ⟨d, m, e, found, accepted, place, kept, slider⟩ :=
    @Document.exists_model_single (Input.sliderMembers (-3) 10) .slider (by decide +kernel)
  obtain ⟨x, member, _, min, max, validator, leavesMin, leavesMax, line⟩ :=
    Model.sliderBounds_of_document found accepted place kept slider (Document.boundsAt_single (-3) 10)
  cases leavesMin.small (by decide)
  cases leavesMax.small (by decide)
  exact ⟨d, m, found, accepted, x, member, validator, line⟩

/-- A bound of 54 bits is rounded. -/
theorem Model.sliderBound_rounded :
    let text := "\x7b\"display_name\":\"S\",\"config\":[\x7b\"name\":\"n\",\"user_defined\":true,"
      ++ "\"value\":\x7b\"control\":\"slider\",\"min\":9007199254740993,\"max\":9007199254740994\x7d\x7d]\x7d"
    ∃ d m e, Document.ofJson text = .ok d ∧ Model.ofDocument .source "pg" d = .ok m
      ∧ d.entries[0]? = some e ∧ e ∈ d.keptEntries .source ∧ e.input.control = .slider
      ∧ Document.BoundsAt text 0 9007199254740993 9007199254740994
      ∧ ∃ x ∈ m.attributes, Attribute.ofEntry e = .ok x
        ∧ x.validator? = some (.between 9007199254740992 9007199254740994)
        ∧ x.validator? ≠ some (.between 9007199254740993 9007199254740994) := by
  intro text
  have same : text = (Document.single (Input.sliderMembers 9007199254740993 9007199254740994)).text := by
    decide +kernel
  rw [same]
  obtain ⟨d, m, e, found, accepted, place, kept, slider⟩ :=
    @Document.exists_model_single (Input.sliderMembers 9007199254740993 9007199254740994) .slider
      (by decide +kernel)
  have evaluates : ((Document.ofJson
        (Document.single (Input.sliderMembers 9007199254740993 9007199254740994)).text).toOption.map
          fun d => d.entries.map fun e => (Attribute.ofEntry e).toOption.bind (·.validator?))
      = some [some (.between 9007199254740992 9007199254740994)] := by
    decide +kernel
  obtain ⟨x, member, ofEntry⟩ := Model.exists_attribute accepted kept
  have first : (d.entries.map fun e => (Attribute.ofEntry e).toOption.bind (·.validator?))[0]?
      = some (some (.between 9007199254740992 9007199254740994)) := by
    rw [found] at evaluates
    exact congrArg (·[0]?) (Option.some.inj evaluates)
  have validator : x.validator? = some (.between 9007199254740992 9007199254740994) := by
    simpa [place, ofEntry, Except.toOption] using first
  refine ⟨d, m, e, found, accepted, place, kept, slider, Document.boundsAt_single _ _, x, member,
    ofEntry, validator, ?_⟩
  rw [validator]
  decide

end ConnectorSchema
