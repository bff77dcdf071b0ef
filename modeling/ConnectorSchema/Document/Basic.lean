import ConnectorSchema.Document.Input

/-!
Connector documents: what a connector is called and which entries its configuration has.
-/

namespace ConnectorSchema

inductive Operator where
  | eq
  | ne
  | isIn
deriving DecidableEq, Repr

/-- A condition on another entry under which an entry is shown. It is kept and never evaluated. -/
structure Condition where
  operator : Operator
  entry : String
  value : Json.Value

/-- Whether and how an entry is handed on to Kafka Connect. -/
inductive KafkaSetting where
  | flag (b : Bool)
  | overrides (members : List (String × Json.Value))

/-- A candidate field of a connector. -/
structure Entry where
  /-- The dotted name that the backend uses. -/
  name : String
  /-- Whether the user supplies the entry. -/
  userDefined : Bool
  required : Option Bool
  description : Option String
  displayName : Option String
  encrypt : Bool
  setOnce : Bool
  conditions : Option (List Condition)
  kafka : Option KafkaSetting
  input : Input

structure Document where
  displayName : String
  description : Option String
  schemaLevels : Option Json.Value
  debeziumConnectorName : Option String
  serialisation : Option Json.Value
  entries : List Entry

/-- An entry that does not say whether it is required is not. -/
def Entry.isRequired (e : Entry) : Bool := e.required.getD false

/-- The entries that the user supplies, in order. -/
def Document.userEntries (d : Document) : List Entry := d.entries.filter (·.userDefined)

end ConnectorSchema
