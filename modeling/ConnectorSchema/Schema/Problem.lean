import ConnectorSchema.Document.Form
import ConnectorSchema.Files.FileError

/-!
Why an entry or a whole document cannot be used. A conversion failure knows the value and not the
entry it belongs to; `Problem.forEntry` adds the entry.
-/

namespace ConnectorSchema

/-- What is wrong with the attribute for an entry. -/
inductive Violation where
  | conversion (c : Conversion)
  | encryptedControl (control : Control)
  | attributeNameTaken (name : String)
  | fieldNameWithoutLetter (name : String)
  | fieldNameTaken (name : String)
  | misplacedDefault
  | defaultOfOtherKind
  | computedReplacement
  | sensitiveNonString

def Violation.message : Violation → String
  | .conversion c => c.message
  | .encryptedControl control => "encrypted " ++ control.tag ++ " control is not a string"
  | .attributeNameTaken name => "attribute name '" ++ name ++ "' is already in use"
  | .fieldNameWithoutLetter name => "field name '" ++ name ++ "' does not start with a letter"
  | .fieldNameTaken name => "field name '" ++ name ++ "' is already in use"
  | .misplacedDefault =>
    "a default requires an optional+computed attribute without state-for-unknown"
  | .defaultOfOtherKind => "default literal does not match the attribute type"
  | .computedReplacement => "a computed-only attribute cannot require replacement"
  | .sensitiveNonString => "only string attributes can be sensitive"

/-- Why a connector document cannot be turned into attributes. -/
inductive Problem where
  | unreadable (path : String) (error : FileError)
  | malformed (path : String) (error : Json.ReadError)
  | conversion (c : Conversion)
  | entry (name : String) (violation : Violation)

def Problem.message : Problem → String
  | .unreadable path error => "failed to read " ++ path ++ ": " ++ error.message
  | .malformed path error => "malformed connector configuration " ++ path ++ ": " ++ error.message
  | .conversion c => c.message
  | .entry name violation => "invalid entry '" ++ name ++ "': " ++ violation.message

/-- Says to which entry a failed conversion belongs. Every other problem knows its place already. -/
def Problem.forEntry (name : String) : Problem → Problem
  | .conversion c => .entry name (.conversion c)
  | p => p

/-- Reads a document from a text; `path` is named when that fails. -/
def Document.parse (path text : String) : Except Problem Document :=
  (Document.ofJson text).mapError (.malformed path)

/-- The path that is named for a document that is no file. -/
def inMemory : String := "<memory>"

/-- Reads a document from a text alone. -/
def Document.ofText (text : String) : Except Problem Document := Document.parse inMemory text

/-- A file gives the document that its text gives; the path is in the problem only. -/
theorem Document.toOption_parse (path text : String) :
    (Document.parse path text).toOption = (Document.ofText text).toOption := by
  simp only [ofText, parse]
  cases Document.ofJson text <;> rfl

end ConnectorSchema
