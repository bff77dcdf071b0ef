import ConnectorSchema.Naming
import ConnectorSchema.Schema.Capabilities

/-!
The model of a connector: everything the generated file says, free of how it says it.
-/

namespace ConnectorSchema

/-- Names that follow from the kind and the code of a connector. -/
structure Header where
  entityTitle : String
  codeTitle : String
  /-- The structure that holds a resource's state. -/
  modelName : String
  /-- The function that returns the schema. -/
  schemaFunction : String
  /-- The table from attribute names to backend names. -/
  mappingName : String
deriving DecidableEq

def Header.of (kind : EntityKind) (code : String) : Header :=
  let entityTitle := Naming.title kind.name
  let codeTitle := Naming.pascal code
  let stem := entityTitle ++ codeTitle
  ⟨entityTitle, codeTitle, stem ++ "Model", stem ++ "Schema", stem ++ "FieldMappings"⟩

structure Model where
  kind : EntityKind
  code : String
  displayName : String
  header : Header
  description : String
  markdown : String
  attributes : List Attribute
  capabilities : Capabilities
deriving DecidableEq

namespace Model

/-- The attribute with this name. -/
def attribute? (m : Model) (name : String) : Option Attribute :=
  m.attributes.find? (·.name = name)

/-- Attribute names with the backend names behind them. -/
def mappings (m : Model) : List (String × String) :=
  (m.attributes.filter (·.apiName ≠ "")).map fun a => (a.name, a.apiName)

end Model

end ConnectorSchema
