import ConnectorSchema.Go.Imports
import ConnectorSchema.Go.Literal
import ConnectorSchema.Schema.Model

/-!
The generated file, line by line. A line is a list of segments, so that what is code, what stands in
a string literal and what is the display name in a comment stay apart until the very end.
-/

namespace ConnectorSchema.Go

/-- The name in the first line of every file. -/
def generatorName : String := "schemagen"

inductive Segment where
  | code (s : String)
  /-- A string literal with this value. -/
  | literal (value : String)
  /-- Text within a comment. -/
  | remark (s : String)
deriving DecidableEq

def Segment.text : Segment → String
  | .code s => s
  | .literal value => Go.literal value
  | .remark s => s

abbrev Line := List Segment

/-- A line of code alone, so many tabs from the margin. -/
def codeLine (tabs : Nat) (s : String) : Line := [.code ("".pushn '\t' tabs ++ s)]

/-- A line with a label in code, a literal, and a comma. -/
def literalLine (tabs : Nat) (label value : String) : Line :=
  [.code ("".pushn '\t' tabs ++ label), .literal value, .code ","]

/-- The display name on one line. -/
def oneLine (s : String) : String := s.map fun c => if c = '\n' ∨ c = '\r' then ' ' else c

/-- The expression for a default. -/
def defaultSegments : Default → Line
  | .string s => [.code "stringdefault.StaticString(", .literal s, .code ")"]
  | .int64 n => [.code ("int64default.StaticInt64(" ++ toString n.toInt ++ ")")]
  | .bool b => [.code ("booldefault.StaticBool(" ++ booleanText b ++ ")")]

/-- Literals with commas between them. -/
def literalList : List String → Line
  | [] => []
  | [s] => [.literal s]
  | s :: rest => .literal s :: .code ", " :: literalList rest

/-- The expression for a validator of an attribute of this kind. -/
def validatorSegments (kind : ValueKind) : Validator → Line
  | .oneOf values =>
    .code (packageStem kind ++ "validator.OneOf(") :: literalList values ++ [.code ")"]
  | .between min max =>
    [.code (packageStem kind ++ "validator.Between(" ++ toString min.toInt ++ ", "
      ++ toString max.toInt ++ ")")]

/-- The plan modifiers of an attribute. -/
def planModifiers (a : Attribute) : List String :=
  (if a.stateForUnknown then [packageStem a.kind ++ "planmodifier.UseStateForUnknown()"] else [])
  ++ (if a.requiresReplace then [packageStem a.kind ++ "planmodifier.RequiresReplace()"] else [])

/-- A line that is there when a flag is set. -/
def flagLine (flag : Bool) (s : String) : List Line := if flag then [codeLine 4 s] else []

/-- The lines for an attribute in the schema. -/
def attributeLines (a : Attribute) : List Line :=
  let type := typeName a.kind
  [[.code "\t\t\t", .literal a.name, .code (": schema." ++ type ++ "Attribute\x7b")]]
  ++ flagLine a.presence.isRequired "Required: true,"
  ++ flagLine a.presence.isOptional "Optional: true,"
  ++ flagLine a.presence.isComputed "Computed: true,"
  ++ flagLine a.sensitive "Sensitive: true,"
  ++ [literalLine 4 "Description:         " a.description,
    literalLine 4 "MarkdownDescription: " a.markdown]
  ++ flagLine (a.kind == .stringList) "ElementType: types.StringType,"
  ++ (match a.default? with
    | none => []
    | some d => [.code "\t\t\t\tDefault: " :: defaultSegments d ++ [.code ","]])
  ++ (match a.validator? with
    | none => []
    | some v =>
      [codeLine 4 ("Validators: []validator." ++ type ++ "\x7b"),
        .code "\t\t\t\t\t" :: validatorSegments a.kind v ++ [.code ","],
        codeLine 4 "\x7d,"])
  ++ (match planModifiers a with
    | [] => []
    | modifiers =>
      [codeLine 4 ("PlanModifiers: []planmodifier." ++ type ++ "\x7b")]
      ++ modifiers.map (fun m => codeLine 5 (m ++ ","))
      ++ [codeLine 4 "\x7d,"])
  ++ [codeLine 3 "\x7d,"]

/-- The line for an attribute in the structure, with the attribute's name in its tag. -/
def fieldLine (a : Attribute) : Line :=
  codeLine 1 (a.fieldName ++ " types." ++ typeName a.kind ++ " `tfsdk:\"" ++ a.name ++ "\"`")

/-- The line for an attribute in the table of names. -/
def mappingLine (mapping : String × String) : Line :=
  [.code "\t", .literal mapping.1, .code ": ", .literal mapping.2, .code ","]

/-- A comment line about a declaration, with the display name in it. -/
def remarkLine (name verb : String) (m : Model) : Line :=
  [.code ("// " ++ name ++ verb), .remark (oneLine m.displayName), .code (" " ++ m.kind.name ++ ".")]

def blankLine : Line := []

/-- The lines of the file for a model. -/
def fileLines (m : Model) : List Line :=
  [codeLine 0 ("// Code generated by " ++ generatorName ++ ". DO NOT EDIT."),
    blankLine,
    codeLine 0 "package generated",
    blankLine,
    codeLine 0 "import ("]
  ++ (imports m.capabilities).map (fun path => codeLine 1 ("\"" ++ path ++ "\""))
  ++ [codeLine 0 ")",
    blankLine,
    remarkLine m.header.modelName " describes the Terraform state of a " m,
    codeLine 0 ("type " ++ m.header.modelName ++ " struct \x7b")]
  ++ m.attributes.map fieldLine
  ++ [codeLine 0 "\x7d",
    blankLine,
    remarkLine m.header.schemaFunction " returns the Terraform schema of a " m,
    codeLine 0 ("func " ++ m.header.schemaFunction ++ "() schema.Schema \x7b"),
    codeLine 1 "return schema.Schema\x7b",
    literalLine 2 "Description:         " m.description,
    literalLine 2 "MarkdownDescription: " m.markdown,
    codeLine 2 "Attributes: map[string]schema.Attribute\x7b"]
  ++ m.attributes.flatMap attributeLines
  ++ [codeLine 2 "\x7d,",
    codeLine 1 "\x7d",
    codeLine 0 "\x7d",
    blankLine,
    codeLine 0 ("// " ++ m.header.mappingName
      ++ " maps Terraform attribute names to backend field names."),
    codeLine 0 ("var " ++ m.header.mappingName ++ " = map[string]string\x7b")]
  ++ m.mappings.map mappingLine
  ++ [codeLine 0 "\x7d"]

def Line.text (line : Line) : String := String.join (line.map Segment.text)

/-- The text of the file for a model. -/
def render (m : Model) : String := String.join ((fileLines m).map fun line => Line.text line ++ "\n")

end ConnectorSchema.Go
