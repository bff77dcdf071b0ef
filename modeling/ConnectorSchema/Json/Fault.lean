import ConnectorSchema.Text.Quoted
import ConnectorSchema.Number.DoubleText

/-!
Why a text is not the JSON document that a reader wants. A `Fault` is a matter of JSON alone; a
`ReadError` may also be a well-formed value in the wrong place. `ReadError.message` holds every
wording.
-/

namespace ConnectorSchema.Json

open Number

/-- What keeps a text from being JSON, or from being JSON within the limits of this reader. -/
inductive Fault where
  | endInValue
  | endInObject
  | endInList
  | endInString
  | valueExpected
  | wordBroken
  | objectNotContinued
  | listNotContinued
  | colonExpected
  | keyNotString
  | trailingComma
  | trailingText
  | numberMalformed
  | numberOutOfRange
  | escapeUnknown
  | escapeCutShort
  | surrogateAlone
  | controlCharacter
  | nestedTooDeep
deriving DecidableEq, Repr

def Fault.message : Fault → String
  | .endInValue => "EOF while parsing a value"
  | .endInObject => "EOF while parsing an object"
  | .endInList => "EOF while parsing a list"
  | .endInString => "EOF while parsing a string"
  | .valueExpected => "expected value"
  | .wordBroken => "expected ident"
  | .objectNotContinued => "expected `,` or `\x7d`"
  | .listNotContinued => "expected `,` or `]`"
  | .colonExpected => "expected `:`"
  | .keyNotString => "key must be a string"
  | .trailingComma => "trailing comma"
  | .trailingText => "trailing characters"
  | .numberMalformed => "invalid number"
  | .numberOutOfRange => "number out of range"
  | .escapeUnknown => "invalid escape"
  | .escapeCutShort => "unexpected end of hex escape"
  | .surrogateAlone => "lone leading surrogate in hex escape"
  | .controlCharacter => "control character (\\u0000-\\u001F) found while parsing a string"
  | .nestedTooDeep => "recursion limit exceeded"

/-- A value as a message about a wrong one calls it. Lists and objects are not looked into. -/
inductive Found where
  | null
  | boolean (b : Bool)
  | integer (n : Int)
  | double (d : Double)
  | text (s : String)
  | list
  | object
deriving DecidableEq

def Found.describe : Found → String
  | .null => "null"
  | .boolean b => "boolean `" ++ toString b ++ "`"
  | .integer n => "integer `" ++ toString n ++ "`"
  | .double d => "floating point `" ++ d.jsonText ++ "`"
  | .text s => "string " ++ Text.quoted s
  | .list => "sequence"
  | .object => "map"

/-- Why a document cannot be read. -/
inductive ReadError where
  | fault (fault : Fault)
  /-- A value of another kind than `expected`. -/
  | mismatch (found : Found) (expected : String)
  | missing (key : String)
  | duplicate (key : String)
  /-- A word that is none of `words`. -/
  | unknownWord (found : String) (words : List String)
  /-- A value that fits no alternative of `family`. -/
  | noAlternative (family : String)
  /-- A record written as a list that ends before the member number `index`. -/
  | tooShort (index : Nat) (record : String) (count : Nat)
deriving DecidableEq

/-- Alternatives in a message: one, two, or a list of them. -/
def alternatives : List String → String
  | [a] => "`" ++ a ++ "`"
  | [a, b] => "`" ++ a ++ "` or `" ++ b ++ "`"
  | words => "one of " ++ ", ".intercalate (words.map fun w => "`" ++ w ++ "`")

def ReadError.message : ReadError → String
  | .fault f => f.message
  | .mismatch found expected => "invalid type: " ++ found.describe ++ ", expected " ++ expected
  | .missing key => "missing field `" ++ key ++ "`"
  | .duplicate key => "duplicate field `" ++ key ++ "`"
  | .unknownWord found words =>
    "unknown variant `" ++ found ++ "`, expected " ++ alternatives words
  | .noAlternative family => "data did not match any variant of untagged enum " ++ family
  | .tooShort index record count =>
    "invalid length " ++ toString index ++ ", expected struct " ++ record ++ " with "
      ++ toString count ++ " elements"

end ConnectorSchema.Json
