import ConnectorSchema.Document.Control
import ConnectorSchema.Json.Value

/-!
How the value of an entry is entered: the control, its default, its choices and its bounds. The
default may be written in several ways, and each attribute type has its own idea of which of them it
can take; `defaultString?`, `defaultInt64?` and `defaultBoolean?` are these ideas.
-/

namespace ConnectorSchema

open Number

/-- A default as written. -/
inductive Literal where
  | boolean (b : Bool)
  | integer (n : Int64)
  | double (d : Double)
  | string (s : String)
  | list (items : List Json.Value)
  | object (members : List (String × Json.Value))

/-- An option of a select control as written. -/
inductive Choice where
  | boolean (b : Bool)
  | integer (n : Int64)
  | double (d : Double)
  | string (s : String)
deriving DecidableEq

/-- Whether a value is supplied or computed by the backend. -/
inductive Origin where
  | raw
  | dynamic
deriving DecidableEq, Repr

structure Input where
  control : Control
  origin : Origin
  defaultValue : Option Literal
  choices : List Choice
  min : Option Double
  max : Option Double
  step : Option Double
  /-- These are kept as they are and never interpreted. -/
  readonly : Option Json.Value
  placeholder : Option Json.Value
  rows : Option Json.Value
  multiline : Option Json.Value
  validation : Option Json.Value
  functionName : Option Json.Value
  dependencies : Option Json.Value

/-- What could not be converted. -/
inductive Subject where
  | literal (l : Literal)
  | bound (name : String) (d : Double)

inductive Target where
  | string
  | integer
  | boolean
deriving DecidableEq, Repr

/-- A value that has no counterpart of the wanted type. -/
structure Conversion where
  subject : Subject
  target : Target

def booleanText (b : Bool) : String := if b then "true" else "false"

def Literal.describe : Literal → String
  | .boolean b => "boolean " ++ booleanText b
  | .integer n => "integer " ++ toString n.toInt
  | .double d => "number " ++ d.plainText
  | .string s => "string " ++ Text.quoted s
  | .list _ => "list"
  | .object _ => "object"

def Subject.describe : Subject → String
  | .literal l => l.describe
  | .bound name d => "slider " ++ name ++ " " ++ d.plainText

def Target.name : Target → String
  | .string => "string"
  | .integer => "integer"
  | .boolean => "boolean"

def Conversion.message (c : Conversion) : String :=
  "cannot convert " ++ c.subject.describe ++ " to " ++ c.target.name

/-- A choice as it is displayed and validated. -/
def Choice.text : Choice → String
  | .boolean b => booleanText b
  | .integer n => toString n.toInt
  | .double d => d.plainText
  | .string s => s

namespace Literal

def string? : Literal → Option String
  | .boolean b => some (booleanText b)
  | .integer n => some (toString n.toInt)
  | .double d => some d.plainText
  | .string s => some s
  | .list _ | .object _ => none

/-- Integers, whole doubles, and texts that hold an integer. -/
def int64? : Literal → Option Int64
  | .integer n => some n
  | .double d => d.toInt64?
  | .string s => readInt64? s
  | .boolean _ | .list _ | .object _ => none

/-- Booleans, and the texts `true` and `false` in any case. -/
def boolean? : Literal → Option Bool
  | .boolean b => some b
  | .string s =>
    let folded := s.toList.map Char.toLower
    if folded = ['t', 'r', 'u', 'e'] then some true
    else if folded = ['f', 'a', 'l', 's', 'e'] then some false
    else none
  | .integer _ | .double _ | .list _ | .object _ => none

/-- A conversion of an absent default is an absent result. -/
def convert {α : Type} (target : Target) (as? : Literal → Option α) :
    Option Literal → Except Conversion (Option α)
  | none => .ok none
  | some l =>
    match as? l with
    | some a => .ok (some a)
    | none => .error ⟨.literal l, target⟩

end Literal

namespace Input

/-- An input with nothing but a control. -/
def ofControl (control : Control) : Input :=
  ⟨control, .raw, none, [], none, none, none, none, none, none, none, none, none, none⟩

def defaultString? (i : Input) : Except Conversion (Option String) :=
  Literal.convert .string Literal.string? i.defaultValue

def defaultInt64? (i : Input) : Except Conversion (Option Int64) :=
  Literal.convert .integer Literal.int64? i.defaultValue

def defaultBoolean? (i : Input) : Except Conversion (Option Bool) :=
  Literal.convert .boolean Literal.boolean? i.defaultValue

def choiceTexts (i : Input) : List String := i.choices.map Choice.text

/-- Whether both bounds of a slider are there. -/
def hasRange (i : Input) : Bool := i.min.isSome && i.max.isSome

/-- A bound as a word, or `absent`. -/
def bound (name : String) (absent : Int64) : Option Double → Except Conversion Int64
  | none => .ok absent
  | some d =>
    match d.toInt64? with
    | some n => .ok n
    | none => .error ⟨.bound name d, .integer⟩

def sliderMin (i : Input) : Except Conversion Int64 := bound "min" 0 i.min

def sliderMax (i : Input) : Except Conversion Int64 := bound "max" 0 i.max

def sliderStep (i : Input) : Except Conversion Int64 := bound "step" 1 i.step

end Input

end ConnectorSchema
