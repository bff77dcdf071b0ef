import ConnectorSchema.Document.Basic
import ConnectorSchema.Json.Record

/-!
Reading connector documents: the form of each of their four kinds of record.
-/

namespace ConnectorSchema

open Json

/-- The value as a literal: a boolean, an integer of 64 bits, any other number, a text, a list or an
object. Nothing at all is no literal. -/
def Literal.ofValue? : Value → Option Literal
  | .null => none
  | .boolean b => some (.boolean b)
  | .number n =>
    match n with
    | .integer k _ =>
      match Number.int64? k with
      | some word => some (.integer word)
      | none => n.toDouble?.map .double
    | .double d => some (.double d)
  | .string s => some (.string s)
  | .list items => some (.list items)
  | .object members => some (.object members)

/-- The value as a choice. Lists and objects are no choices. -/
def Choice.ofValue? (v : Value) : Option Choice :=
  match Literal.ofValue? v with
  | some (.boolean b) => some (.boolean b)
  | some (.integer n) => some (.integer n)
  | some (.double d) => some (.double d)
  | some (.string s) => some (.string s)
  | _ => none

def KafkaSetting.ofValue? : Value → Option KafkaSetting
  | .boolean b => some (.flag b)
  | .object members => some (.overrides members)
  | _ => none

def Origin.words : List (String × Origin) := [("raw", .raw), ("dynamic", .dynamic)]

def Operator.words : List (String × Operator) := [("EQ", .eq), ("NE", .ne), ("IN", .isIn)]

namespace Input

inductive Field where
  | control | origin | defaultValue | choices | min | max | step
  | readonly | placeholder | rows | multiline | validation | functionName | dependencies
deriving DecidableEq

namespace Field

def all : List Field :=
  [.control, .origin, .defaultValue, .choices, .min, .max, .step,
    .readonly, .placeholder, .rows, .multiline, .validation, .functionName, .dependencies]

def key : Field → String
  | .control => "control"
  | .origin => "type"
  | .defaultValue => "default"
  | .choices => "raw_values"
  | .min => "min"
  | .max => "max"
  | .step => "step"
  | .readonly => "readonly"
  | .placeholder => "placeholder"
  | .rows => "rows"
  | .multiline => "multiline"
  | .validation => "validation"
  | .functionName => "function_name"
  | .dependencies => "dependencies"

abbrev Content : Field → Type
  | .control => Control
  | .origin => Origin
  | .defaultValue => Option Literal
  | .choices => List Choice
  | .min | .max | .step => Option Number.Double
  | .readonly | .placeholder | .rows | .multiline | .validation | .functionName | .dependencies =>
    Option Value

def read : (f : Field) → Reader f.Content
  | .control => fun room node => (readString room node).map Control.ofTag
  | .origin => readChoice Origin.words
  | .defaultValue => readOptional (readAlternative "DefaultValue" Literal.ofValue?)
  | .choices => readOr [] (readList (readAlternative "RawValue" Choice.ofValue?))
  | .min | .max | .step => readOptional readDouble
  | .readonly | .placeholder | .rows | .multiline | .validation | .functionName | .dependencies =>
    readOptional readValue

def absent : (f : Field) → Option f.Content
  | .control => none
  | .origin => some .raw
  | .defaultValue => some none
  | .choices => some []
  | .min | .max | .step => some none
  | .readonly | .placeholder | .rows | .multiline | .validation | .functionName | .dependencies =>
    some none

end Field

def form : RecordForm :=
  { name := "ValueObject", Field := Field, fields := Field.all, key := Field.key,
    Content := Field.Content, read := Field.read, absent := Field.absent,
    complete := fun f => by cases f <;> decide }

def ofFields (v : form.Filled) : Input :=
  ⟨v .control, v .origin, v .defaultValue, v .choices, v .min, v .max, v .step, v .readonly,
    v .placeholder, v .rows, v .multiline, v .validation, v .functionName, v .dependencies⟩

def reader : Reader Input := fun room node => (form.readRecord room node).map ofFields

/-- Reads an input that stands alone in a text. -/
def ofJson (text : String) : Except ReadError Input := Json.read reader text

end Input

namespace Condition

inductive Field where
  | operator | entry | value
deriving DecidableEq

namespace Field

def all : List Field := [.operator, .entry, .value]

def key : Field → String
  | .operator => "operator"
  | .entry => "config"
  | .value => "value"

abbrev Content : Field → Type
  | .operator => Operator
  | .entry => String
  | .value => Value

def read : (f : Field) → Reader f.Content
  | .operator => readChoice Operator.words
  | .entry => readString
  | .value => readValue

end Field

def form : RecordForm :=
  { name := "Condition", Field := Field, fields := Field.all, key := Field.key,
    Content := Field.Content, read := Field.read, absent := fun _ => none,
    complete := fun f => by cases f <;> decide }

def ofFields (v : form.Filled) : Condition := ⟨v .operator, v .entry, v .value⟩

def reader : Reader Condition := fun room node => (form.readRecord room node).map ofFields

end Condition

namespace Entry

inductive Field where
  | name | userDefined | required | description | displayName | encrypt | setOnce | conditions
  | kafka | input
deriving DecidableEq

namespace Field

def all : List Field :=
  [.name, .userDefined, .required, .description, .displayName, .encrypt, .setOnce, .conditions,
    .kafka, .input]

def key : Field → String
  | .name => "name"
  | .userDefined => "user_defined"
  | .required => "required"
  | .description => "description"
  | .displayName => "display_name"
  | .encrypt => "encrypt"
  | .setOnce => "set_once"
  | .conditions => "conditions"
  | .kafka => "kafka_config"
  | .input => "value"

abbrev Content : Field → Type
  | .name => String
  | .userDefined => Bool
  | .required => Option Bool
  | .description | .displayName => Option String
  | .encrypt | .setOnce => Bool
  | .conditions => Option (List Condition)
  | .kafka => Option KafkaSetting
  | .input => Input

def read : (f : Field) → Reader f.Content
  | .name => readString
  | .userDefined => readBoolean
  | .required => readOptional readBoolean
  | .description | .displayName => readOptional readString
  | .encrypt | .setOnce => readOr false readBoolean
  | .conditions => readOptional (readList Condition.reader)
  | .kafka => readOptional (readAlternative "KafkaConfig" KafkaSetting.ofValue?)
  | .input => Input.reader

def absent : (f : Field) → Option f.Content
  | .name | .userDefined | .input => none
  | .required => some none
  | .description | .displayName => some none
  | .encrypt | .setOnce => some false
  | .conditions => some none
  | .kafka => some none

end Field

def form : RecordForm :=
  { name := "ConfigEntry", Field := Field, fields := Field.all, key := Field.key,
    Content := Field.Content, read := Field.read, absent := Field.absent,
    complete := fun f => by cases f <;> decide }

def ofFields (v : form.Filled) : Entry :=
  ⟨v .name, v .userDefined, v .required, v .description, v .displayName, v .encrypt, v .setOnce,
    v .conditions, v .kafka, v .input⟩

def reader : Reader Entry := fun room node => (form.readRecord room node).map ofFields

end Entry

namespace Document

inductive Field where
  | displayName | description | schemaLevels | debeziumConnectorName | serialisation | entries
deriving DecidableEq

namespace Field

def all : List Field :=
  [.displayName, .description, .schemaLevels, .debeziumConnectorName, .serialisation, .entries]

def key : Field → String
  | .displayName => "display_name"
  | .description => "description"
  | .schemaLevels => "schema_levels"
  | .debeziumConnectorName => "debezium_connector_name"
  | .serialisation => "serialisation"
  | .entries => "config"

abbrev Content : Field → Type
  | .displayName => String
  | .description | .debeziumConnectorName => Option String
  | .schemaLevels | .serialisation => Option Value
  | .entries => List Entry

def read : (f : Field) → Reader f.Content
  | .displayName => readString
  | .description | .debeziumConnectorName => readOptional readString
  | .schemaLevels | .serialisation => readOptional readValue
  | .entries => readList Entry.reader

def absent : (f : Field) → Option f.Content
  | .displayName | .entries => none
  | .description | .debeziumConnectorName => some none
  | .schemaLevels | .serialisation => some none

end Field

def form : RecordForm :=
  { name := "ConnectorSpec", Field := Field, fields := Field.all, key := Field.key,
    Content := Field.Content, read := Field.read, absent := Field.absent,
    complete := fun f => by cases f <;> decide }

def ofFields (v : form.Filled) : Document :=
  ⟨v .displayName, v .description, v .schemaLevels, v .debeziumConnectorName, v .serialisation,
    v .entries⟩

def reader : Reader Document := fun room node => (form.readRecord room node).map ofFields

/-- Reads a document. -/
def ofJson (text : String) : Except ReadError Document := Json.read reader text

end Document

end ConnectorSchema
