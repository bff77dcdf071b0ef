import ConnectorSchema.Schema.Kind
import ConnectorSchema.Schema.Problem

/-!
Attributes of a schema. The rules that tie their parts together are checked by
`Attribute.violation?`.
-/

namespace ConnectorSchema

/-- Who supplies the value of an attribute. These are all the combinations there are. -/
inductive Presence where
  | required
  | optional
  /-- The user may set it; otherwise a default applies. -/
  | optionalComputed
  /-- The backend alone sets it. -/
  | computed
deriving DecidableEq, Repr

namespace Presence

def isRequired (p : Presence) : Bool := p == .required

def isOptional (p : Presence) : Bool := p == .optional || p == .optionalComputed

def isComputed (p : Presence) : Bool := p == .optionalComputed || p == .computed

def name : Presence → String
  | .required => "required"
  | .optional => "optional"
  | .optionalComputed => "optional+computed"
  | .computed => "computed"

end Presence

/-- The default of an attribute. -/
inductive Default where
  | string (s : String)
  | int64 (n : Int64)
  | bool (b : Bool)
deriving DecidableEq

namespace Default

def kind : Default → ValueKind
  | .string _ => .string
  | .int64 _ => .int64
  | .bool _ => .bool

/-- The default without quotes, as markdown shows it. -/
def bare : Default → String
  | .string s => s
  | .int64 n => toString n.toInt
  | .bool b => booleanText b

/-- The default as plain text shows it. -/
def literal : Default → String
  | .string s => "\"" ++ s ++ "\""
  | d => d.bare

end Default

/-- Which values an attribute admits. -/
inductive Validator where
  | oneOf (values : List String)
  /-- Both bounds are admitted. -/
  | between (min max : Int64)
deriving DecidableEq

structure Attribute where
  /-- The field of the generated structure. -/
  fieldName : String
  /-- The name in the schema. -/
  name : String
  /-- The backend's name; empty for an attribute that no entry stands behind. -/
  apiName : String
  kind : ValueKind
  presence : Presence
  /-- Plans and logs do not show the value. -/
  sensitive : Bool
  description : String
  markdown : String
  default? : Option Default
  validator? : Option Validator
  /-- An unknown planned value stays what it was. -/
  stateForUnknown : Bool
  /-- A change of the value recreates the resource. -/
  requiresReplace : Bool
deriving DecidableEq

namespace Attribute

/-- What messages call the attribute. -/
def label (a : Attribute) : String := if a.apiName = "" then a.name else a.apiName

/-- The first of the rules between the parts of an attribute that does not hold. -/
def violation? (a : Attribute) : Option Violation :=
  if a.default?.isSome ∧ (a.presence ≠ .optionalComputed ∨ a.stateForUnknown) then
    some .misplacedDefault
  else if a.default?.any (·.kind ≠ a.kind) then some .defaultOfOtherKind
  else if a.requiresReplace ∧ a.presence = .computed then some .computedReplacement
  else if a.sensitive ∧ a.kind ≠ .string then some .sensitiveNonString
  else none

def check (a : Attribute) : Except Problem Unit :=
  match a.violation? with
  | some v => .error (.entry a.label v)
  | none => .ok ()

end Attribute

end ConnectorSchema
