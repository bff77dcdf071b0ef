import ConnectorSchema.Filter.Octets

/-!
The choices that a program's arguments make: single letters, which can be written together behind one
hyphen, and long names. They may stand anywhere in front of `--`; all other arguments are operands.
-/

namespace ConnectorSchema.Filter

/-- The choices that a program knows. -/
structure ChoiceNames where
  flags : List Char
  /-- Letters that need a value. -/
  valued : List Char
  /-- Letters whose value, if any, is written right behind them. -/
  attached : List Char
  /-- Long names for letters. -/
  long : List (String × Char)

structure Choice where
  letter : Char
  value : Octets

namespace ChoiceNames

def needs (letter : Char) : String := "option requires an argument -- '" ++ letter.toString ++ "'"

/-- The choices in a cluster of letters. A value may be the next argument. -/
def readCluster (names : ChoiceNames) :
    Octets → (next : List Octets) → Except String (List Choice × List Octets)
  | [], next => .ok ([], next)
  | c :: rest, next =>
    if names.flags.contains c then
      (readCluster names rest next).map fun found => (⟨c, []⟩ :: found.1, found.2)
    else if names.attached.contains c then .ok ([⟨c, rest⟩], next)
    else if names.valued.contains c then
      match rest, next with
      | _ :: _, next => .ok ([⟨c, rest⟩], next)
      | [], value :: next => .ok ([⟨c, value⟩], next)
      | [], [] => .error (needs c)
    else .error ("invalid option -- '" ++ c.toString ++ "'")

/-- The letters for a long name or its beginning. -/
def lettersFor (names : ChoiceNames) (name : String) : List (String × Char) :=
  match names.long.find? (·.1 = name) with
  | some found => [found]
  | none => names.long.filter fun l => l.1.startsWith name

/-- The choice with a long name, and the arguments that are left. -/
def readLong (names : ChoiceNames) (text : Octets) (next : List Octets) :
    Except String (Choice × List Octets) :=
  let (name, value?) := Octets.cutAt '=' text
  let name := name.toText
  let found := names.lettersFor name
  match found.map (·.2) |>.eraseDups, found with
  | [letter], (full, _) :: _ =>
    if names.valued.contains letter then
      match value?, next with
      | some value, next => .ok (⟨letter, value⟩, next)
      | none, value :: next => .ok (⟨letter, value⟩, next)
      | none, [] => .error ("option '--" ++ full ++ "' requires an argument")
    else
      match value? with
      | some value =>
        if names.attached.contains letter then .ok (⟨letter, value⟩, next)
        else .error ("option '--" ++ full ++ "' doesn't allow an argument")
      | none => .ok (⟨letter, []⟩, next)
  | [], _ => .error ("unrecognized option '--" ++ name ++ "'")
  | _, _ =>
    .error ("option '--" ++ name ++ "' is ambiguous; possibilities:"
      ++ String.join (found.map fun l => " '--" ++ l.1 ++ "'"))

/-- The choices and the operands among arguments. The first argument bounds the number of steps. -/
def readSteps (names : ChoiceNames) :
    Nat → List Octets → Except String (List Choice × List Octets)
  | 0, operands => .ok ([], operands)
  | _, [] => .ok ([], [])
  | steps + 1, argument :: next =>
    match argument with
    | ['-', '-'] => .ok ([], next)
    | '-' :: '-' :: name => do
      let (choice, next) ← names.readLong name next
      let (choices, operands) ← readSteps names steps next
      return (choice :: choices, operands)
    | '-' :: letter :: letters => do
      let (here, next) ← names.readCluster (letter :: letters) next
      let (choices, operands) ← readSteps names steps next
      return (here ++ choices, operands)
    | _ => (readSteps names steps next).map fun found => (found.1, argument :: found.2)

def read (names : ChoiceNames) (arguments : List Octets) :
    Except String (List Choice × List Octets) :=
  names.readSteps arguments.length arguments

end ChoiceNames

/-- Whether a letter was chosen. -/
def chosen (choices : List Choice) (letter : Char) : Bool := choices.any (·.letter = letter)

/-- The value of a letter, the last if there are several. -/
def valueOf? (choices : List Choice) (letter : Char) : Option Octets :=
  (choices.reverse.find? (·.letter = letter)).map (·.value)

/-- The complaint about a choice that a program does not know. -/
def misused (tool : Octets) (message : String) : Octets :=
  tool ++ Octets.ofString (": " ++ message ++ "\nTry '") ++ tool
    ++ " --help' for more information.\n".toList

end ConnectorSchema.Filter
