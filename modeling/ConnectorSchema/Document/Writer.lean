import ConnectorSchema.Document.Form

/-!
Connector documents as JSON: fields in order of declaration, under the keys from which they are
read. Most absent fields are written as `null`; those that are kept without being interpreted are
left out.
-/

namespace ConnectorSchema

open Json

/-- An absent field that is written as `null`. -/
def orNull {α : Type} (write : α → Value) : Option α → Option Value
  | none => some .null
  | some a => some (write a)

/-- The members of an object with these fields. A field without a value is left out. -/
def membersOf {Field : Type} (key : Field → String) (value? : Field → Option Value)
    (fields : List Field) : List (String × Value) :=
  fields.filterMap fun f => (value? f).map fun v => (key f, v)

def Literal.toValue : Literal → Value
  | .boolean b => .boolean b
  | .integer n => .number (.ofInt64 n)
  | .double d => .number (.double d)
  | .string s => .string s
  | .list items => .list items
  | .object members => .object members

def Choice.toValue : Choice → Value
  | .boolean b => .boolean b
  | .integer n => .number (.ofInt64 n)
  | .double d => .number (.double d)
  | .string s => .string s

def KafkaSetting.toValue : KafkaSetting → Value
  | .flag b => .boolean b
  | .overrides members => .object members

def Origin.word : Origin → String
  | .raw => "raw"
  | .dynamic => "dynamic"

def Operator.word : Operator → String
  | .eq => "EQ"
  | .ne => "NE"
  | .isIn => "IN"

def doubleValue (d : Number.Double) : Value := .number (.double d)

namespace Input

def fieldValue? (i : Input) : Field → Option Value
  | .control => some (.string i.control.tag)
  | .origin => some (.string i.origin.word)
  | .defaultValue => orNull Literal.toValue i.defaultValue
  | .choices => some (.list (i.choices.map Choice.toValue))
  | .min => orNull doubleValue i.min
  | .max => orNull doubleValue i.max
  | .step => orNull doubleValue i.step
  | .readonly => i.readonly
  | .placeholder => i.placeholder
  | .rows => i.rows
  | .multiline => i.multiline
  | .validation => i.validation
  | .functionName => i.functionName
  | .dependencies => i.dependencies

def toValue (i : Input) : Value := .object (membersOf Field.key i.fieldValue? Field.all)

end Input

namespace Condition

def fieldValue? (c : Condition) : Field → Option Value
  | .operator => some (.string c.operator.word)
  | .entry => some (.string c.entry)
  | .value => some c.value

def toValue (c : Condition) : Value := .object (membersOf Field.key c.fieldValue? Field.all)

end Condition

namespace Entry

def fieldValue? (e : Entry) : Field → Option Value
  | .name => some (.string e.name)
  | .userDefined => some (.boolean e.userDefined)
  | .required => orNull .boolean e.required
  | .description => orNull .string e.description
  | .displayName => orNull .string e.displayName
  | .encrypt => some (.boolean e.encrypt)
  | .setOnce => some (.boolean e.setOnce)
  | .conditions => e.conditions.map fun cs => .list (cs.map Condition.toValue)
  | .kafka => e.kafka.map KafkaSetting.toValue
  | .input => some e.input.toValue

def toValue (e : Entry) : Value := .object (membersOf Field.key e.fieldValue? Field.all)

end Entry

namespace Document

def fieldValue? (d : Document) : Field → Option Value
  | .displayName => some (.string d.displayName)
  | .description => orNull .string d.description
  | .schemaLevels => d.schemaLevels
  | .debeziumConnectorName => d.debeziumConnectorName.map .string
  | .serialisation => d.serialisation
  | .entries => some (.list (d.entries.map Entry.toValue))

def toValue (d : Document) : Value := .object (membersOf Field.key d.fieldValue? Field.all)

end Document

end ConnectorSchema
