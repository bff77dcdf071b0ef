/-!
The controls with which a user enters a value. A tag that is not known is kept and later treated as
plain text.
-/

namespace ConnectorSchema

inductive Control where
  | string
  | password
  | textarea
  | json
  | datetime
  | number
  | slider
  | boolean
  | toggle
  | oneSelect
  | multiSelect
  | other (tag : String)
deriving DecidableEq, Repr

namespace Control

def tag : Control → String
  | .string => "string"
  | .password => "password"
  | .textarea => "textarea"
  | .json => "json"
  | .datetime => "datetime"
  | .number => "number"
  | .slider => "slider"
  | .boolean => "boolean"
  | .toggle => "toggle"
  | .oneSelect => "one-select"
  | .multiSelect => "multi-select"
  | .other tag => tag

def ofTag (tag : String) : Control :=
  match tag with
  | "string" => .string
  | "password" => .password
  | "textarea" => .textarea
  | "json" => .json
  | "datetime" => .datetime
  | "number" => .number
  | "slider" => .slider
  | "boolean" => .boolean
  | "toggle" => .toggle
  | "one-select" => .oneSelect
  | "multi-select" => .multiSelect
  | tag => .other tag

def isKnown : Control → Bool
  | .other _ => false
  | _ => true

theorem tag_ofTag (tag : String) : (ofTag tag).tag = tag := by
  unfold ofTag
  split <;> rfl

end Control

end ConnectorSchema
