import ConnectorSchema.Discovery
import ConnectorSchema.Schema.Model

/-!
Connectors and attributes as lines of a listing, their parts between tabs.
-/

namespace ConnectorSchema.CommandLine

/-- The line that lists a connector. -/
def connectorLine (c : Connector) : String :=
  "\t".intercalate [c.kind.name, c.code, c.path] ++ "\n"

/-- What an attribute has besides its kind and presence. -/
def attributeFlags (a : Attribute) : List String :=
  (if a.sensitive then ["sensitive"] else [])
  ++ (a.default?.map fun d => "default=" ++ d.literal).toList
  ++ (if a.validator?.isSome then ["validated"] else [])
  ++ (if a.requiresReplace then ["requires-replace"] else [])
  ++ (if a.stateForUnknown then ["use-state-for-unknown"] else [])

/-- The line that shows an attribute. -/
def attributeLine (a : Attribute) : String :=
  let flags := if attributeFlags a = [] then [] else [",".intercalate (attributeFlags a)]
  "\t".intercalate ([a.name, a.kind.name, a.presence.name] ++ flags) ++ "\n"

/-- The line above the attributes of a model. -/
def modelLine (m : Model) : String :=
  m.header.schemaFunction ++ " (" ++ m.displayName ++ " " ++ m.kind.name ++ ")\n"

end ConnectorSchema.CommandLine
