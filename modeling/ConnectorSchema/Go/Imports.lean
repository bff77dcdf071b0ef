import ConnectorSchema.Schema.Capabilities

/-!
The packages that a generated file needs.
-/

namespace ConnectorSchema.Go

def framework : String := "github.com/hashicorp/terraform-plugin-framework"

def frameworkValidators : String := "github.com/hashicorp/terraform-plugin-framework-validators"

/-- How the packages for a kind of value begin their names. -/
def packageStem : ValueKind → String
  | .string => "string"
  | .int64 => "int64"
  | .bool => "bool"
  | .stringList => "list"

/-- How the types for a kind of value are called. -/
def typeName : ValueKind → String
  | .string => "String"
  | .int64 => "Int64"
  | .bool => "Bool"
  | .stringList => "List"

/-- The packages for the features that one kind of value uses. -/
def kindImports (c : Capabilities) (kind : ValueKind) : List String :=
  let used := c.forKind kind
  let stem := packageStem kind
  (if used.default then [framework ++ "/resource/schema/" ++ stem ++ "default"] else [])
  ++ (if used.planModifiers then [framework ++ "/resource/schema/" ++ stem ++ "planmodifier"]
    else [])
  ++ (if used.validators then [frameworkValidators ++ "/" ++ stem ++ "validator"] else [])

/-- All packages in no particular order. The schema and the types are always needed. -/
def neededImports (c : Capabilities) : List String :=
  [framework ++ "/resource/schema", framework ++ "/types"]
  ++ (if c.anyPlanModifiers then [framework ++ "/resource/schema/planmodifier"] else [])
  ++ (if c.anyValidators then [framework ++ "/schema/validator"] else [])
  ++ ValueKind.all.flatMap (kindImports c)

/-- Puts a path into an increasing list, once. -/
def insertImport (path : String) : List String → List String
  | [] => [path]
  | p :: rest =>
    if path < p then path :: p :: rest
    else if path = p then p :: rest
    else p :: insertImport path rest

/-- The import paths in increasing order. -/
def imports (c : Capabilities) : List String :=
  (neededImports c).foldr insertImport []

end ConnectorSchema.Go
