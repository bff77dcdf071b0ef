import ConnectorSchema.Document.Control
import ConnectorSchema.Text.Letter

/-!
Kinds: of connectors (what a schema is for) and of attributes (what type their values have).
-/

namespace ConnectorSchema

/-- What a connector does: read from a system, write to one, or rewrite records in between. -/
inductive EntityKind where
  | source
  | destination
  | transform
deriving DecidableEq, Repr

namespace EntityKind

/-- In the order in which schemas are generated. -/
def all : List EntityKind := [.source, .destination, .transform]

def name : EntityKind → String
  | .source => "source"
  | .destination => "destination"
  | .transform => "transform"

/-- As in the backend's directory names. -/
def plural : EntityKind → String
  | .source => "sources"
  | .destination => "destinations"
  | .transform => "transforms"

/-- The kind called so, singular or plural, in any case; otherwise the name in lower case. -/
def ofName (name : String) : Except String EntityKind :=
  match String.ofList (Text.lowerAll name.toList) with
  | "source" | "sources" => .ok .source
  | "destination" | "destinations" => .ok .destination
  | "transform" | "transforms" => .ok .transform
  | unknown => .error unknown

/-- The message for a name that no kind has. -/
def unknownMessage (name : String) : String := "unknown entity kind '" ++ name ++ "'"

end EntityKind

/-- The type of an attribute's value. -/
inductive ValueKind where
  | string
  | int64
  | bool
  | stringList
deriving DecidableEq, Repr

namespace ValueKind

def all : List ValueKind := [.string, .int64, .bool, .stringList]

def name : ValueKind → String
  | .string => "string"
  | .int64 => "int64"
  | .bool => "bool"
  | .stringList => "list(string)"

/-- Whether an attribute of this kind may have a default. -/
def admitsDefault : ValueKind → Bool
  | .stringList => false
  | _ => true

/-- The type of an attribute whose value is entered with this control. -/
def ofControl : Control → ValueKind
  | .string | .password | .textarea | .json | .datetime | .oneSelect | .other _ => .string
  | .number | .slider => .int64
  | .boolean | .toggle => .bool
  | .multiSelect => .stringList

end ValueKind

end ConnectorSchema
