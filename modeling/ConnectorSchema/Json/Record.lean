import ConnectorSchema.Json.Reader

/-!
Records: JSON objects with known keys. A `RecordForm` says which fields a kind of record has, how
each is read and what an absent one means. A record may be written as an object, where unknown keys
are passed over and known ones must not repeat, or as the list of its fields in order, where fields
with a meaning for absence may be left out at the end.
-/

namespace ConnectorSchema.Json

structure RecordForm where
  name : String
  Field : Type
  /-- The fields in order of declaration. -/
  fields : List Field
  key : Field → String
  Content : Field → Type
  read : (f : Field) → Reader (Content f)
  /-- What a field means that is not there; a field without such a meaning must be there. -/
  absent : (f : Field) → Option (Content f)
  [decEq : DecidableEq Field]
  complete : ∀ f, f ∈ fields

namespace RecordForm

variable (form : RecordForm)

instance : DecidableEq form.Field := form.decEq

/-- Fields with the contents that have been read. -/
abbrev Given := List (Σ f : form.Field, form.Content f)

/-- All fields of one record. -/
abbrev Filled := (f : form.Field) → form.Content f

variable {form}

def find? (f : form.Field) : Given form → Option (form.Content f)
  | [] => none
  | ⟨g, content⟩ :: rest => if same : g = f then some (same ▸ content) else find? f rest

variable (form) in
/-- The field with this key. -/
def field? (key : String) : Option form.Field :=
  form.fields.find? fun f => form.key f = key

/-- The content of a field: what was given, or what its absence means. -/
def content? (given : Given form) (f : form.Field) : Option (form.Content f) :=
  (find? f given).or (form.absent f)

/-- Supplies the fields that were not given. The first that must be there and is not is reported. -/
def fill (given : Given form) : Except ReadError (Filled form) :=
  match missing : form.fields.find? fun f => (content? given f).isNone with
  | some f => .error (.missing (form.key f))
  | none => .ok fun f => (content? given f).get (by
      have present := List.find?_eq_none.1 missing f (form.complete f)
      exact Option.isSome_iff_ne_none.2 (by simpa using present))

/-- Reads the members of an object, after those in `given`. -/
def readMembersAfter (room : Nat) (given : Given form) :
    List (RawString × Node) → Except ReadError (Given form)
  | [] => .ok given
  | (key, node) :: rest => do
    let key ← liftFault key.text
    match form.field? key with
    | none =>
      liftFault node.skip
      readMembersAfter room given rest
    | some f =>
      if (find? f given).isSome then .error (.duplicate (form.key f))
      else
        let content ← form.read f room node
        readMembersAfter room (⟨f, content⟩ :: given) rest

/-- Reads the elements of a list as the given fields, of which the first has the number `index`. -/
def readItemsFrom (room : Nat) (stop : Option ListStop) (index : Nat) (given : Given form) :
    List form.Field → List Node → Except ReadError (Given form)
  | [], [] => do
    liftFault (endOr ListStop.faultAtEnd stop)
    return given
  | [], _ :: _ => .error (.fault .trailingText)
  | f :: fields, node :: rest => do
    let content ← form.read f room node
    readItemsFrom room stop (index + 1) (⟨f, content⟩ :: given) fields rest
  | f :: fields, [] =>
    match stop with
    | some stop => .error (.fault stop.fault)
    | none =>
      if (form.absent f).isSome then readItemsFrom room none (index + 1) given fields []
      else .error (.tooShort index form.name form.fields.length)

variable (form) in
/-- Reads a record. -/
def readRecord : Reader (Filled form)
  | room, .object members stop => enter room fun room => do
    let given ← readMembersAfter room [] members
    liftFault (endOr ObjectStop.fault stop)
    fill given
  | room, .list items stop => enter room fun room => do
    let given ← readItemsFrom room stop 0 [] form.fields items
    fill given
  | _, node => mismatch ("struct " ++ form.name) node.found

end RecordForm

end ConnectorSchema.Json
