import ConnectorSchema.Json.Scan
import ConnectorSchema.Json.Value

/-!
Readers: from a `Node` to what it should mean. A reader is told how many lists and objects may still
be opened inside one another. It goes from left to right and fails with the first thing that is
wrong; a value of another kind is named before its parts are looked at.
-/

namespace ConnectorSchema.Json

/-- Reads a node inside which `room` lists and objects may be opened, one within the other. -/
abbrev Reader (α : Type) := (room : Nat) → Node → Except ReadError α

/-- How many lists and objects may be open at once. -/
def nestingLimit : Nat := 127

def liftFault {α : Type} (result : Except Fault α) : Except ReadError α :=
  result.mapError .fault

/-- The failure of a reader that wants another kind of value. -/
def mismatch {α : Type} (expected : String) (found : Except Fault Found) : Except ReadError α := do
  .error (.mismatch (← liftFault found) expected)

/-- Goes into a list or an object. -/
def enter {α : Type} (room : Nat) (inside : Nat → Except ReadError α) : Except ReadError α :=
  match room with
  | 0 => .error (.fault .nestedTooDeep)
  | room + 1 => inside room

def readString : Reader String
  | _, .scalar (.string s) => liftFault s.text
  | _, node => mismatch "a string" node.found

def readBoolean : Reader Bool
  | _, .scalar (.boolean b) => .ok b
  | _, node => mismatch "a boolean" node.found

/-- Reads a double. An integer is rounded to the nearest one. -/
def readDouble : Reader Number.Double
  | _, .scalar (.numeral n) => do
    match (← liftFault n.value).toDouble? with
    | some d => .ok d
    | none => .error (.fault .numberOutOfRange)
  | _, node => mismatch "f64" node.found

def readUnit : Reader Unit
  | _, .scalar .null => .ok ()
  | _, node => mismatch "unit" node.found

/-- Takes `null` for the lack of a value. -/
def readOptional {α : Type} (read : Reader α) : Reader (Option α)
  | _, .scalar .null => .ok none
  | room, node => (read room node).map some

/-- Takes `null` for `value`. -/
def readOr {α : Type} (value : α) (read : Reader α) : Reader α
  | _, .scalar .null => .ok value
  | room, node => read room node

def readList {α : Type} (read : Reader α) : Reader (List α)
  | room, .list items stop => enter room fun room => do
    let values ← items.mapM (read room)
    liftFault (endOr ListStop.fault stop)
    return values
  | _, node => mismatch "a sequence" node.found

/-- The word among `words` that is `found`. -/
def readWord {α : Type} (words : List (String × α)) (found : String) : Except ReadError α :=
  match words.lookup found with
  | some meaning => .ok meaning
  | none => .error (.unknownWord found (words.map (·.1)))

/-- Reads one of some words. It may also be the only key of an object, with `null` as its value. -/
def readChoice {α : Type} (words : List (String × α)) : Reader α
  | _, .scalar (.string s) => do readWord words (← liftFault s.text)
  | room, .object members stop => enter room fun room => do
    match members, stop with
    | [], none => .error (.fault .valueExpected)
    | [], some stop => .error (.fault stop.fault)
    | (key, value) :: rest, stop =>
      let meaning ← readWord words (← liftFault key.text)
      readUnit room value
      match rest, stop with
      | [], none => return meaning
      | [], some .cut => .error (.fault .endInObject)
      | _, _ => .error (.fault .valueExpected)
  | _, .scalar (.broken .absent) => .error (.fault .endInValue)
  | _, .scalar (.broken .colonAbsent) => .error (.fault .endInObject)
  | _, .scalar (.broken .colonWrong) => .error (.fault .colonExpected)
  | _, _ => .error (.fault .valueExpected)

mutual

/-- Reads any value as it is. -/
def readValue (room : Nat) : Node → Except ReadError Value
  | .scalar .null => .ok .null
  | .scalar (.boolean b) => .ok (.boolean b)
  | .scalar (.numeral n) => (liftFault n.value).map .number
  | .scalar (.string s) => (liftFault s.text).map .string
  | .scalar (.broken b) => .error (.fault b.fault)
  | .list items stop => enter room fun room => do
    let values ← readItems room items
    liftFault (endOr ListStop.fault stop)
    return .list values
  | .object members stop => enter room fun room => do
    let values ← readMembers room members
    liftFault (endOr ObjectStop.fault stop)
    return .object (sortMembers values)

def readItems (room : Nat) : List Node → Except ReadError (List Value)
  | [] => .ok []
  | item :: rest => do
    let value ← readValue room item
    let values ← readItems room rest
    return value :: values

def readMembers (room : Nat) : List (RawString × Node) → Except ReadError (List (String × Value))
  | [] => .ok []
  | (key, node) :: rest => do
    let key ← liftFault key.text
    let value ← readValue room node
    let values ← readMembers room rest
    return (key, value) :: values

end

/-- Reads a value and then picks the alternative of `family` that fits it. -/
def readAlternative {α : Type} (family : String) (pick : Value → Option α) : Reader α :=
  fun room node => do
    match pick (← readValue room node) with
    | some a => .ok a
    | none => .error (.noAlternative family)

/-- Reads a whole document. -/
def read {α : Type} (reader : Reader α) (text : String) : Except ReadError α := do
  let scanned := scan text
  let value ← reader nestingLimit scanned.root
  if scanned.trailing then .error (.fault .trailingText) else return value

end ConnectorSchema.Json
