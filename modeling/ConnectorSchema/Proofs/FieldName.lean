import Mathlib.Data.List.Basic
import ConnectorSchema.Naming
import ConnectorSchema.Proofs.AsciiCase

/-!
What a field name is made of. For names in ASCII it is the name itself without its separators, but for
the case of its letters (`map_toLower_pascalChars`, `map_toLower_fieldChars`).
-/

namespace ConnectorSchema

namespace Naming

open Text

theorem flatMap_upper_ascii {cs : List Char} (ascii : ∀ c ∈ cs, c.toNat < 128) :
    cs.flatMap upper = cs.map Char.toUpper := by
  rw [List.map_eq_flatMap]
  exact List.flatMap_congr fun c member => upper_ascii (ascii c member)

theorem flatMap_lower_ascii {cs : List Char} (ascii : ∀ c ∈ cs, c.toNat < 128) :
    cs.flatMap lower = cs.map Char.toLower := by
  rw [List.map_eq_flatMap]
  exact List.flatMap_congr fun c member => lower_ascii (ascii c member)

/-- The words of a name, between its separators. -/
def words (name : List Char) : List (List Char) := (pieces name).filter (!·.isEmpty)

theorem pascalChars_eq (name : List Char) : pascalChars name = (words name).flatMap wordChars := rfl

theorem flatten_pieces (name : List Char) :
    (pieces name).flatten = name.filter (!isSeparator ·) := by
  induction name with
  | nil => rfl
  | cons c rest ih =>
    unfold pieces
    cases separates : isSeparator c with
    | true => simpa [separates] using ih
    | false =>
      rw [List.filter_cons_of_pos (by simp [separates]), ← ih]
      cases pieces rest <;> rfl

theorem flatten_words (name : List Char) : (words name).flatten = name.filter (!isSeparator ·) := by
  rw [words, List.flatten_filter_not_isEmpty, flatten_pieces]

theorem mem_of_mem_words {name word : List Char} (member : word ∈ words name) {c : Char}
    (inWord : c ∈ word) : c ∈ name := by
  have inName : c ∈ name.filter (!isSeparator ·) := by
    rw [← flatten_words]
    exact List.mem_flatten_of_mem member inWord
  exact (List.mem_filter.mp inName).1

/-- Capitals aside, a word stays what it was. -/
theorem map_toLower_wordChars {word : List Char} (ascii : ∀ c ∈ word, c.toNat < 128) :
    (wordChars word).map Char.toLower = word.map Char.toLower := by
  simp only [wordChars]
  split
  · rw [upperAll, flatMap_upper_ascii ascii, List.map_map]
    exact List.map_congr_left fun c _ => toLower_toUpper c
  · cases word with
    | nil => rfl
    | cons c rest =>
      have asciiRest : ∀ d ∈ rest, d.toNat < 128 := fun d member =>
        ascii d (List.mem_cons_of_mem _ member)
      rw [titleChars, upper_ascii (ascii c List.mem_cons_self), flatMap_lower_ascii asciiRest,
        List.singleton_append, List.map_cons, List.map_cons, toLower_toUpper, List.map_map]
      exact congrArg _ (List.map_congr_left fun d _ => toLower_toLower d)

/-- A field name is the name it is made from without separators, capitals aside. -/
theorem map_toLower_pascalChars {name : List Char} (ascii : ∀ c ∈ name, c.toNat < 128) :
    (pascalChars name).map Char.toLower = (name.filter (!isSeparator ·)).map Char.toLower := by
  have each : ∀ word ∈ words name, (wordChars word).map Char.toLower = word.map Char.toLower :=
    fun word member => map_toLower_wordChars fun c inWord => ascii c (mem_of_mem_words member inWord)
  rw [pascalChars_eq, List.map_flatMap, List.flatMap_congr each, ← flatten_words, List.map_flatten,
    List.flatMap_def]

theorem lowerAfter_ascii {cs : List Char} (ascii : ∀ c ∈ cs, c.toNat < 128) (before : List Char) :
    lowerAfter before cs = cs.map Char.toLower := by
  induction cs generalizing before with
  | nil => rfl
  | cons c rest ih =>
    have small := ascii c List.mem_cons_self
    have notSigma : c ≠ 'Σ' := by
      rintro rfl
      exact absurd small (by decide)
    rw [lowerAfter, if_neg notSigma, lower_ascii small,
      ih fun d member => ascii d (List.mem_cons_of_mem _ member)]
    rfl

theorem filter_splitWordsAfter (before : Option Char) (cs : List Char) :
    (splitWordsAfter before cs).filter (!isSeparator ·) = cs.filter (!isSeparator ·) := by
  induction cs generalizing before with
  | nil => rfl
  | cons c rest ih =>
    unfold splitWordsAfter
    split
    · rw [List.filter_cons_of_neg (by decide), List.filter_cons, List.filter_cons, ih]
    · rw [List.filter_cons, List.filter_cons, ih]

theorem mem_of_mem_splitWordsAfter {before : Option Char} {cs : List Char} {c : Char}
    (member : c ∈ splitWordsAfter before cs) : c = '_' ∨ c ∈ cs := by
  induction cs generalizing before with
  | nil => exact Or.inr member
  | cons d rest ih =>
    unfold splitWordsAfter at member
    split at member
    · simp only [List.mem_cons] at member ⊢
      rcases member with mark | here | later
      · exact Or.inl mark
      · exact Or.inr (Or.inl here)
      · exact (ih later).imp_right Or.inr
    · simp only [List.mem_cons] at member ⊢
      rcases member with here | later
      · exact Or.inr (Or.inl here)
      · exact (ih later).imp_right Or.inr

/-- What stands between the words of a backend name. -/
def isBreak (c : Char) : Bool := c = '.' || isSeparator c

theorem filter_underscored (cs : List Char) :
    (cs.map underscored).filter (!isSeparator ·) = cs.filter (!isBreak ·) := by
  induction cs with
  | nil => rfl
  | cons c rest ih =>
    rw [List.map_cons]
    by_cases dotted : c = '.' ∨ c = '-'
    · have breaks : isBreak c = true := by rcases dotted with rfl | rfl <;> rfl
      rw [underscored, if_pos dotted, List.filter_cons_of_neg (by decide), ih,
        List.filter_cons_of_neg (by simp [breaks])]
    · have same : isBreak c = isSeparator c := by
        simp [isBreak, (not_or.mp dotted).1]
      rw [underscored, if_neg dotted, List.filter_cons, List.filter_cons, ih, same]

theorem mem_of_mem_dropUserSuffix {name : List Char} {c : Char}
    (member : c ∈ dropUserSuffix name) : c ∈ name := by
  unfold dropUserSuffix dropSuffix at member
  split at member
  · split at member
    · exact List.mem_of_mem_take member
    · exact member
  · exact member

theorem dropUserSuffix_eq_self {name : List Char}
    (plain : ∀ suffix ∈ userSuffixes, ¬ suffix.toList <:+ name) : dropUserSuffix name = name := by
  have none : userSuffixes.find? (fun suffix => suffix.toList.isSuffixOf name) = none := by
    rw [List.find?_eq_none]
    intro suffix listed ends
    exact plain suffix listed (List.isSuffixOf_iff_suffix.mp ends)
  rw [dropUserSuffix, none]

theorem toList_attributeName (name : String) :
    (attributeName name).toList = attributeChars name.toList :=
  String.toList_ofList

theorem isSeparator_toLower (c : Char) : isSeparator c.toLower = isSeparator c := by
  have letters {d : Char} (letter : d.isAlpha = true) : isSeparator d = false := by
    refine Bool.eq_false_iff.mpr fun separates => ?_
    simp only [isSeparator, Bool.or_eq_true, decide_eq_true_eq] at separates
    rcases separates with rfl | rfl <;> exact absurd letter (by decide)
  by_cases capital : c.isUpper
  · have letter : c.isAlpha := isAlpha_of_isUpper capital
    rw [letters letter, letters (isAlpha_toLower letter)]
  · rw [toLower_eq_self capital]

theorem filter_map_toLower (cs : List Char) : (cs.map Char.toLower).filter (!isSeparator ·)
    = (cs.filter (!isSeparator ·)).map Char.toLower := by
  rw [List.filter_map]
  congr 2
  funext c
  rw [Function.comp_apply, isSeparator_toLower]

section

variable {name : List Char} (ascii : ∀ c ∈ name, c.toNat < 128)

include ascii

theorem splitWords_ascii :
    ∀ c ∈ splitWordsAfter none ((dropUserSuffix name).map underscored), c.toNat < 128 := by
  intro c member
  rcases mem_of_mem_splitWordsAfter member with rfl | inName
  · decide
  · obtain ⟨d, inStem, rfl⟩ := List.mem_map.mp inName
    unfold underscored
    split
    · decide
    · exact ascii d (mem_of_mem_dropUserSuffix inStem)

theorem attributeChars_ascii : attributeChars name
    = (splitWordsAfter none ((dropUserSuffix name).map underscored)).map Char.toLower :=
  lowerAfter_ascii (splitWords_ascii ascii) []

theorem filter_attributeChars : (attributeChars name).filter (!isSeparator ·)
    = ((dropUserSuffix name).filter (!isBreak ·)).map Char.toLower := by
  rw [attributeChars_ascii ascii, filter_map_toLower, filter_splitWordsAfter, filter_underscored]

/-- The field of an entry is called like the entry, without its user suffix and what breaks words,
capitals aside. -/
theorem map_toLower_fieldChars : (pascalChars (attributeChars name)).map Char.toLower
    = ((dropUserSuffix name).filter (!isBreak ·)).map Char.toLower := by
  have asciiName : ∀ c ∈ attributeChars name, c.toNat < 128 := by
    rw [attributeChars_ascii ascii]
    intro c member
    obtain ⟨d, inWords, rfl⟩ := List.mem_map.mp member
    exact toNat_toLower_lt (splitWords_ascii ascii d inWords)
  rw [map_toLower_pascalChars asciiName, filter_attributeChars ascii, List.map_map]
  exact List.map_congr_left fun c _ => toLower_toLower c

end

end Naming

end ConnectorSchema
