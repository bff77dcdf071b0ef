import ConnectorSchema.Schema.EntryAttribute
import ConnectorSchema.Schema.Model

/-!
The model for a document. Three attributes are there for every connector; each entry that the user
supplies adds one, in order, as long as its names are new. The first entry for which that fails
decides the problem.
-/

namespace ConnectorSchema

/-- An attribute that no entry stands behind. -/
def Attribute.synthetic (name : String) (presence : Presence) (description : String) : Attribute where
  fieldName := Naming.pascal name
  name := name
  apiName := ""
  kind := .string
  presence := presence
  sensitive := false
  description := description
  markdown := description
  default? := none
  validator? := none
  stateForUnknown := presence == .computed
  requiresReplace := false

/-- The attributes that every connector of a kind has. -/
def EntityKind.syntheticAttributes (kind : EntityKind) : List Attribute :=
  [.synthetic "id" .computed ("Unique identifier for the " ++ kind.name),
    .synthetic "name" .required ("Name of the " ++ kind.name),
    match kind with
    | .transform => .synthetic "transform_type" .computed ("Type of the " ++ kind.name)
    | _ => .synthetic "connector" .computed ("Connector type of the " ++ kind.name)]

/-- The entry of transforms whose part the attribute `name` plays. -/
def transformNameEntry : String := "transforms.name"

/-- Whether an entry becomes an attribute of a connector of this kind. -/
def EntityKind.keeps (kind : EntityKind) (e : Entry) : Bool :=
  !(kind == .transform && e.name == transformNameEntry)

/-- The entries of a document that become attributes. -/
def Document.keptEntries (d : Document) (kind : EntityKind) : List Entry :=
  d.userEntries.filter kind.keeps

def startsWithLetter (s : String) : Bool :=
  s.toList.head?.any Char.isAlpha

/-- Adds the attribute for an entry. Its names must be new and its field name an identifier. -/
def addEntry (attributes : List Attribute) (e : Entry) : Except Problem (List Attribute) := do
  let a ← Attribute.ofEntry e
  if attributes.any (·.name = a.name) then .error (.entry e.name (.attributeNameTaken a.name))
  else if !startsWithLetter a.fieldName then
    .error (.entry e.name (.fieldNameWithoutLetter a.fieldName))
  else if attributes.any (·.fieldName = a.fieldName) then
    .error (.entry e.name (.fieldNameTaken a.fieldName))
  else return attributes ++ [a]

/-- The attributes of a connector of this kind with these entries. -/
def attributesOf (kind : EntityKind) (entries : List Entry) : Except Problem (List Attribute) := do
  let attributes ← entries.foldlM addEntry kind.syntheticAttributes
  attributes.forM Attribute.check
  return attributes

/-- The description of the resource as a whole. -/
def Document.describe (d : Document) (kind : EntityKind) : String :=
  let extra := Text.trim (d.description.getD "")
  "Manages a " ++ d.displayName ++ " " ++ kind.name ++ "."
    ++ (if extra = "" then "" else " " ++ extra)

/-- The model of the connector `code` of this kind. -/
def Model.ofDocument (kind : EntityKind) (code : String) (d : Document) : Except Problem Model := do
  let attributes ← attributesOf kind (d.keptEntries kind)
  return {
    kind, code
    displayName := d.displayName
    header := Header.of kind code
    description := d.describe kind
    markdown := d.describe kind
    attributes
    capabilities := Capabilities.ofAttributes attributes }

/-- The entries passed over, one after the other, before the first that cannot be admitted. -/
def passedOver (kind : EntityKind) (attributes : List Attribute) : List Entry → List Entry
  | [] => []
  | e :: rest =>
    if kind.keeps e then
      match addEntry attributes e with
      | .ok attributes => passedOver kind attributes rest
      | .error _ => []
    else e :: passedOver kind attributes rest

end ConnectorSchema
