import ConnectorSchema.Schema.Attribute

/-!
Which features a list of attributes uses, kind by kind. The imports of the generated file follow
from it.
-/

namespace ConnectorSchema

/-- The features that some attribute of one kind uses. -/
structure KindCapabilities where
  default : Bool
  validators : Bool
  stateForUnknown : Bool
  requiresReplace : Bool
deriving DecidableEq

namespace KindCapabilities

def planModifiers (k : KindCapabilities) : Bool := k.stateForUnknown || k.requiresReplace

def ofAttributes (attributes : List Attribute) : KindCapabilities :=
  ⟨attributes.any (·.default?.isSome), attributes.any (·.validator?.isSome),
    attributes.any (·.stateForUnknown), attributes.any (·.requiresReplace)⟩

end KindCapabilities

structure Capabilities where
  string : KindCapabilities
  int64 : KindCapabilities
  bool : KindCapabilities
  list : KindCapabilities
  /-- Some attribute is a list and names the type of its elements. -/
  hasList : Bool
deriving DecidableEq

namespace Capabilities

def ofAttributes (attributes : List Attribute) : Capabilities :=
  let ofKind (kind : ValueKind) :=
    KindCapabilities.ofAttributes (attributes.filter (·.kind = kind))
  ⟨ofKind .string, ofKind .int64, ofKind .bool, ofKind .stringList,
    attributes.any (·.kind = .stringList)⟩

def forKind (c : Capabilities) : ValueKind → KindCapabilities
  | .string => c.string
  | .int64 => c.int64
  | .bool => c.bool
  | .stringList => c.list

def anyValidators (c : Capabilities) : Bool :=
  ValueKind.all.any fun kind => (c.forKind kind).validators

def anyPlanModifiers (c : Capabilities) : Bool :=
  ValueKind.all.any fun kind => (c.forKind kind).planModifiers

end Capabilities

end ConnectorSchema
