import ConnectorSchema.Naming
import ConnectorSchema.Schema.Attribute
import ConnectorSchema.Document.Writer

/-!
The attribute for one entry: its type, default, presence, admitted values and descriptions. The
order in which problems are noticed is the order of the lines of `Attribute.ofEntry`.
-/

namespace ConnectorSchema

/-- The default of an attribute of this kind, if it has one. An unknown control gives none, and the
default of a JSON editor may be a list or an object, which is kept as JSON text. -/
def Default.given? (kind : ValueKind) (e : Entry) : Except Problem (Option Default) :=
  let input := e.input
  let named {α : Type} (make : α → Default) (result : Except Conversion (Option α)) :
      Except Problem (Option Default) :=
    match result with
    | .ok value => .ok (value.map make)
    | .error c => .error ((Problem.conversion c).forEntry e.name)
  if input.defaultValue.isNone || !kind.admitsDefault || !input.control.isKnown then .ok none
  else
    match kind with
    | .string =>
      match input.control, input.defaultValue with
      | .json, some (.list items) => .ok (some (.string (Json.Value.list items).text))
      | .json, some (.object members) => .ok (some (.string (Json.Value.object members).text))
      | _, _ => named .string input.defaultString?
    | .int64 => named .int64 input.defaultInt64?
    | .bool => named .bool input.defaultBoolean?
    | .stringList => .ok none

/-- The options of a one-select, if there are any. -/
def Entry.validValues? (e : Entry) : Option (List String) :=
  if e.input.control = .oneSelect ∧ e.input.choiceTexts ≠ [] then some e.input.choiceTexts else none

/-- Which values the attribute for an entry admits. -/
def Validator.given? (e : Entry) : Except Problem (Option Validator) :=
  match e.input.control with
  | .oneSelect => .ok (e.validValues?.map .oneOf)
  | .slider =>
    if e.input.hasRange then
      match e.input.sliderMin with
      | .error c => .error ((Problem.conversion c).forEntry e.name)
      | .ok min =>
        match e.input.sliderMax with
        | .error c => .error ((Problem.conversion c).forEntry e.name)
        | .ok max => .ok (some (.between min max))
    else .ok none
  | _ => .ok none

def sensitiveNote : String := "This value is sensitive and will not appear in logs or CLI output."

def sensitiveMarkdownNote : String :=
  "**Security:** This value is sensitive and will be masked in logs and CLI output."

/-- The sentences that are not empty, with a blank between them. -/
def joinSentences (sentences : List String) : String :=
  " ".intercalate (sentences.filter (· ≠ ""))

/-- What the document says about an entry: the first of description and label that is not blank. -/
def Entry.summary (e : Entry) : String :=
  (([e.description, e.displayName].filterMap id).map Text.trim).find? (· ≠ "") |>.getD ""

/-- The plain description of the attribute for an entry. -/
def Entry.describe (e : Entry) (default? : Option Default) (sensitive : Bool) : String :=
  joinSentences <|
    [e.summary]
    ++ default?.toList.map (fun d => "Defaults to " ++ d.literal ++ ".")
    ++ e.validValues?.toList.map (fun vs => "Valid values: " ++ ", ".intercalate vs ++ ".")
    ++ (if sensitive then [sensitiveNote] else [])

/-- A text as a markdown code span. -/
def codeSpan (s : String) : String := "`" ++ s ++ "`"

/-- The same description in markdown. -/
def Entry.describeMarkdown (e : Entry) (default? : Option Default) (sensitive : Bool) : String :=
  joinSentences <|
    [e.summary]
    ++ default?.toList.map (fun d => "Defaults to " ++ codeSpan d.bare ++ ".")
    ++ e.validValues?.toList.map
      (fun vs => "Valid values: " ++ ", ".intercalate (vs.map codeSpan) ++ ".")
    ++ (if sensitive then [sensitiveMarkdownNote] else [])

/-- Whether the value for an entry is a secret. -/
def Entry.isSensitive (e : Entry) : Bool := e.encrypt || e.input.control == .password

/-- Who supplies the value for an entry. -/
def Entry.presence (e : Entry) (default? : Option Default) : Presence :=
  if e.isRequired && e.input.defaultValue.isNone then .required
  else if default?.isSome then .optionalComputed
  else .optional

def Attribute.ofEntry (e : Entry) : Except Problem Attribute := do
  let kind := ValueKind.ofControl e.input.control
  let default? ← Default.given? kind e
  let sensitive := e.isSensitive
  if sensitive ∧ kind ≠ .string then
    .error (.entry e.name (.encryptedControl e.input.control))
  let validator? ← Validator.given? e
  let name := Naming.attributeName e.name
  return {
    fieldName := Naming.pascal name
    name
    apiName := e.name
    kind
    presence := e.presence default?
    sensitive
    description := e.describe default? sensitive
    markdown := e.describeMarkdown default? sensitive
    default?
    validator?
    stateForUnknown := false
    requiresReplace := e.setOnce }

end ConnectorSchema
