import ConnectorSchema.Text.Letter

/-!
Names. The backend calls an entry by a dotted name, sometimes in camel case
(`database.sslMode.user.defined`). The schema attribute is in snake case (`database_ssl_mode`), and
the struct field in Pascal case with acronyms in capitals (`DatabaseSSLMode`).
-/

namespace ConnectorSchema.Naming

open Text

/-- Words that stay in capitals within a field name. -/
def acronyms : List String := ["ID", "SSH", "SSL", "DB", "URL", "API", "AWS", "ARN"]

/-- Endings that only tell who sees an entry. -/
def userSuffixes : List String := [".user.defined", ".user.displayed"]

/-- `name` without `suffix` at its end. -/
def dropSuffix (name suffix : List Char) : List Char :=
  if suffix.isSuffixOf name then name.take (name.length - suffix.length) else name

/-- The first of the suffixes that ends the name is removed, and only once. -/
def dropUserSuffix (name : List Char) : List Char :=
  match userSuffixes.find? fun suffix => suffix.toList.isSuffixOf name with
  | some suffix => dropSuffix name suffix.toList
  | none => name

def underscored (c : Char) : Char := if c = '.' ∨ c = '-' then '_' else c

/-- Whether a word begins at `c`: after a lower-case letter, or where a run of capitals turns into
one capitalised word. -/
def beginsWord (before : Option Char) (c : Char) (after : Option Char) : Bool :=
  isUpper c && before.any fun b => isLower b || (isUpper b && after.any isLower)

/-- Puts `_` in front of every word that begins by its case alone. -/
def splitWordsAfter (before : Option Char) : List Char → List Char
  | [] => []
  | c :: rest =>
    if beginsWord before c rest.head? then '_' :: c :: splitWordsAfter (some c) rest
    else c :: splitWordsAfter (some c) rest

def attributeChars (name : List Char) : List Char :=
  lowerAll (splitWordsAfter none ((dropUserSuffix name).map underscored))

/-- The attribute name for a backend name. -/
def attributeName (name : String) : String := String.ofList (attributeChars name.toList)

/-- The first character in upper case and the rest in lower case. -/
def titleChars : List Char → List Char
  | [] => []
  | c :: rest => upper c ++ rest.flatMap lower

def title (s : String) : String := String.ofList (titleChars s.toList)

def isSeparator (c : Char) : Bool := c = '_' || c = '-'

/-- The pieces of a name between separators, empty ones included. -/
def pieces : List Char → List (List Char)
  | [] => [[]]
  | c :: rest =>
    if isSeparator c then [] :: pieces rest
    else
      match pieces rest with
      | [] => [[c]]
      | piece :: others => (c :: piece) :: others

/-- A word within a field name. -/
def wordChars (word : List Char) : List Char :=
  let capitals := upperAll word
  if String.ofList capitals ∈ acronyms then capitals else titleChars word

def pascalChars (name : List Char) : List Char :=
  ((pieces name).filter (!·.isEmpty)).flatMap wordChars

/-- The field name for a name in snake case or kebab case. -/
def pascal (s : String) : String := String.ofList (pascalChars s.toList)

end ConnectorSchema.Naming
