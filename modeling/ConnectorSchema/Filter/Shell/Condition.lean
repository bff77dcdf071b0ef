import ConnectorSchema.Filter.Shell.Arithmetic

/-!
Conditions: what the commands `test` and `[` find out about texts, numbers and files.
-/

namespace ConnectorSchema.Filter.Shell.Condition

/-- What a word of a condition is where an operator can stand. -/
inductive Sign where
  | ended
  | operand
  | unary
  | binary
  | not
  | and
  | or
  | opening
  | closing
deriving DecidableEq

def unaries : List String :=
  ["-b", "-c", "-d", "-e", "-f", "-g", "-h", "-k", "-L", "-n", "-O", "-G", "-p", "-r", "-s", "-S",
    "-t", "-u", "-w", "-x", "-z"]

def binaries : List String :=
  ["=", "!=", "<", ">", "-eq", "-ne", "-ge", "-gt", "-le", "-lt", "-nt", "-ot", "-ef"]

/-- What a word is by itself. -/
def signOf (word : Octets) : Sign :=
  let text := String.ofList word
  if unaries.contains text then .unary
  else if binaries.contains text then .binary
  else
    match text with
    | "!" => .not
    | "-a" => .and
    | "-o" => .or
    | "(" => .opening
    | ")" => .closing
    | _ => .operand

/-- What the first of some words is among them. -/
def signAt (words : List Octets) : Sign :=
  match words with
  | [] => .ended
  | word :: rest =>
    let isOperand : Bool :=
      match rest with
      | [] => true
      | [_] => false
      | next :: _ => signOf next = .binary
    match signOf word with
    | .unary => if isOperand then .operand else .unary
    | .opening => if rest.isEmpty then .operand else .opening
    | sign => sign

/-- The number that a word spells. -/
def numberOf (word : Octets) : Except Octets Int64 :=
  match Arithmetic.numberOf word with
  | .ok n =>
    if word.all Octets.isSpace then .error ("Illegal number: ".toList ++ word) else .ok n
  | .error _ => .error ("Illegal number: ".toList ++ word)

/-- What is found out about a file, or about a text. -/
def unaryHolds (files : FileSystem) (sign : String) (word : Octets) : Bool :=
  let there := files.node? word.toText
  match sign with
  | "-n" => !word.isEmpty
  | "-z" => word.isEmpty
  | "-e" | "-r" | "-w" | "-O" | "-G" => there.isSome
  | "-d" => there.any Tree.isDir
  | "-x" => there.any Tree.isDir
  | "-f" => there.any fun t => !t.isDir
  | "-s" =>
    match there with
    | some (.file bytes) => !bytes.isEmpty
    | found => found.isSome
  | "-h" | "-L" =>
    match files.locate .kept word.toText with
    | .ok location =>
      match location.node? with
      | some (.link _) => true
      | _ => false
    | .error _ => false
  | _ => false

def binaryHolds (sign : String) (first second : Octets) : Except Octets Bool := do
  let compared (holds : Int64 → Int64 → Bool) : Except Octets Bool := do
    return holds (← numberOf first) (← numberOf second)
  match sign with
  | "=" => return first == second
  | "!=" => return first != second
  | "<" => return first < second
  | ">" => return second < first
  | "-eq" => compared fun a b => a == b
  | "-ne" => compared fun a b => a != b
  | "-lt" => compared fun a b => a < b
  | "-le" => compared fun a b => a ≤ b
  | "-gt" => compared fun a b => b < a
  | "-ge" => compared fun a b => b ≤ a
  | _ => return false

/-- A result, and the words from the last one that was used on. -/
abbrev Result := Except Octets (Bool × List Octets)

mutual

def disjunction (files : FileSystem) : Nat → Sign → List Octets → Result
  | 0, _, words => .ok (false, words)
  | n + 1, sign, words => do
    let (first, words) ← conjunction files n sign words
    if signAt (words.drop 1) = .or then
      let next := words.drop 2
      let (second, words) ← disjunction files n (signAt next) next
      return (first || second, words)
    else return (first, words)

def conjunction (files : FileSystem) : Nat → Sign → List Octets → Result
  | 0, _, words => .ok (false, words)
  | n + 1, sign, words => do
    let (first, words) ← negation files n sign words
    if signAt (words.drop 1) = .and then
      let next := words.drop 2
      let (second, words) ← conjunction files n (signAt next) next
      return (first && second, words)
    else return (first, words)

def negation (files : FileSystem) : Nat → Sign → List Octets → Result
  | 0, _, words => .ok (false, words)
  | n + 1, sign, words => do
    if sign = .not then
      let next := words.drop 1
      let (inside, words) ← negation files n (signAt next) (if next.isEmpty then words else next)
      return (!inside, words)
    else primary files n sign words

def primary (files : FileSystem) : Nat → Sign → List Octets → Result
  | 0, _, words => .ok (false, words)
  | n + 1, sign, words => do
    let wanted (word : Octets) : Octets := word ++ ": argument expected".toList
    match sign, words with
    | .ended, words => return (false, words)
    | _, [] => return (false, [])
    | .opening, _ :: inside =>
      if signAt inside = .closing then return (false, inside)
      else
        let (found, words) ← disjunction files n (signAt inside) inside
        let after := words.drop 1
        if signAt after = .closing then return (found, after)
        else .error "closing paren expected".toList
    | .unary, word :: rest =>
      match rest with
      | [] => .error (wanted word)
      | operand :: _ => return (unaryHolds files (String.ofList word) operand, rest)
    | _, first :: rest =>
      if signAt rest = .binary then
        match rest with
        | operator :: second :: more =>
          let found ← binaryHolds (String.ofList operator) first second
          return (found, second :: more)
        | operator :: [] => .error (wanted operator)
        | [] => return (false, [])
      else return (!first.isEmpty, first :: rest)

end

/-- Finds out whether the words of a condition hold. -/
def whole (files : FileSystem) (sign : Sign) (words : List Octets) : Except Octets Bool := do
  let (found, left) ← disjunction files (4 * words.length + 8) sign words
  match left with
  | word :: _ :: _ =>
    .error (if word.isEmpty then "unexpected operator".toList
      else word ++ ": unexpected operator".toList)
  | _ => return found

/-- Finds out whether a condition holds. Short ones are told apart by the number of their words. -/
def holds (files : FileSystem) : List Octets → Except Octets Bool
  | [] => .ok false
  | words =>
    let inner := words.tail.dropLast
    let inParentheses := words.head? = some ['('] && words.getLast? = some [')']
    match words with
    | [first, operator, second] =>
      if signOf operator = .binary then whole files .operand [first, operator, second]
      else if inParentheses then whole files (signAt inner) inner
      else if first = ['!'] then (whole files (signAt [operator, second]) [operator, second]).map (!·)
      else whole files (signAt words) words
    | [first, second, third, fourth] =>
      if inParentheses then whole files (signAt inner) inner
      else if first = ['!'] then (holds files [second, third, fourth]).map (!·)
      else whole files (signAt words) words
    | words => whole files (signAt words) words
termination_by words => words.length

end ConnectorSchema.Filter.Shell.Condition
