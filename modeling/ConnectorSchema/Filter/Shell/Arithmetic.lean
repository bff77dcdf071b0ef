import ConnectorSchema.Filter.Shell.Session

/-!
Arithmetic expressions over 64-bit numbers, in which variables stand for their values and can be given
new ones.
-/

namespace ConnectorSchema.Filter.Shell.Arithmetic

/-- What is wrong with an expression. -/
inductive Fault where
  | wanted (what : String)
  | division
  | notNumber (text : Octets)
  | unassignable (name : Octets)

/-- How far the working out has come. -/
structure Work where
  rest : Octets
  session : Session

abbrev Worker := StateT Work (Except Fault)

def fail {α : Type} (f : Fault) : Worker α := fun _ => .error f

/-- What is left, without blanks in front. -/
def front : Worker Octets := do
  let w ← get
  let rest := w.rest.dropWhile Octets.isSpace
  set { w with rest }
  return rest

def moveTo (rest : Octets) : Worker Unit := modify fun w => { w with rest }

def ofNat (n : Nat) : Int64 := Int64.ofNat n

/-- A number in decimal, octal or hexadecimal digits, and what follows. -/
def takeLiteral (text : Octets) : Nat × Octets :=
  let inBase (base : Nat) (text : Octets) : Nat × Octets :=
    let value? (c : Char) : Option Nat :=
      if c.isDigit then some (c.toNat - '0'.toNat)
      else if 'a' ≤ c.toLower ∧ c.toLower ≤ 'f' then some (c.toLower.toNat - 'a'.toNat + 10)
      else none
    let digits := text.takeWhile fun c => (value? c).any (· < base)
    (digits.foldl (fun n c => n * base + (value? c).getD 0) 0, text.drop digits.length)
  match text with
  | '0' :: 'x' :: rest => inBase 16 rest
  | '0' :: 'X' :: rest => inBase 16 rest
  | '0' :: rest => inBase 8 rest
  | rest => inBase 10 rest

/-- The largest number. -/
def largest : Nat := 9223372036854775807

/-- The number that the value of a variable spells. -/
def numberOf (text : Octets) : Except Fault Int64 :=
  let trimmed := (text.dropWhile Octets.isSpace).reverse.dropWhile Octets.isSpace |>.reverse
  let (negative, digits) :=
    match trimmed with
    | '-' :: rest => (true, rest)
    | '+' :: rest => (false, rest)
    | rest => (false, rest)
  let (n, rest) := takeLiteral digits
  if trimmed.isEmpty then .ok 0
  else if !rest.isEmpty || !digits.head?.any Char.isDigit then .error (.notNumber text)
  else .ok (if negative then -ofNat (min n largest) else ofNat (min n largest))

def textOf (n : Int64) : Octets := (toString n.toInt).toList

def truth (b : Bool) : Int64 := if b then 1 else 0

/-- An operator between two numbers: how it is written, how tightly it binds, what it does. -/
structure Binary where
  sign : Octets
  level : Nat
  apply : Int64 → Int64 → Option Int64

def binaries : List Binary :=
  let total (sign : String) (level : Nat) (f : Int64 → Int64 → Int64) : Binary :=
    ⟨sign.toList, level, fun a b => some (f a b)⟩
  [total "==" 4 fun a b => truth (a == b), total "!=" 4 fun a b => truth (a != b),
    total "<<" 7 fun a b => a <<< b, total ">>" 7 fun a b => a >>> b,
    total "<=" 5 fun a b => truth (a ≤ b), total ">=" 5 fun a b => truth (b ≤ a),
    total "<" 5 fun a b => truth (a < b), total ">" 5 fun a b => truth (b < a),
    total "|" 1 fun a b => a ||| b, total "^" 2 fun a b => a ^^^ b, total "&" 3 fun a b => a &&& b,
    total "+" 8 fun a b => a + b, total "-" 8 fun a b => a - b, total "*" 9 fun a b => a * b,
    ⟨['/'], 9, fun a b => if b == 0 then none else some (a / b)⟩,
    ⟨['%'], 9, fun a b => if b == 0 then none else some (a % b)⟩]

/-- The operator at the front of a text. Signs that belong to longer ones are none. -/
def binary? (text : Octets) : Option Binary :=
  if "||".toList.isPrefixOf text || "&&".toList.isPrefixOf text then none
  else
    match binaries.find? fun b => b.sign.isPrefixOf text with
    | some b =>
      let after := text.drop b.sign.length
      if b.sign.getLast? ≠ some '=' && after.head? = some '=' && b.sign ≠ ['<'] && b.sign ≠ ['>'] then
        none
      else some b
    | none => none

/-- The operator with which a variable is changed. -/
def assignment? (text : Octets) : Option (Option Binary × Octets) :=
  match text with
  | '=' :: '=' :: _ => none
  | '=' :: rest => some (none, rest)
  | text =>
    (binaries.find? fun b =>
      b.sign ≠ ['<'] && b.sign ≠ ['>'] && b.sign.getLast? ≠ some '='
        && (b.sign ++ ['=']).isPrefixOf text).map fun b =>
      (some b, text.drop (b.sign.length + 1))

/-- The value of a variable. -/
def valueOf (live : Bool) (name : Octets) : Worker Int64 := do
  let w ← get
  if !live then return 0
  match numberOf ((w.session.value? name).getD []) with
  | .ok n => return n
  | .error f => fail f

mutual

/-- Works out an expression. Parts that are not `live` are only read. -/
def expression : Nat → (live : Bool) → Worker Int64
  | 0, _ => return 0
  | n + 1, live => do
    let text ← front
    let name := text.takeWhile isNamePart
    let after := (text.drop name.length).dropWhile Octets.isSpace
    match if isName name then assignment? after else none with
    | some (operator?, rest) =>
      moveTo rest
      let value ← expression n live
      let value ← (match operator? with
        | none => return value
        | some b => do
          let old ← valueOf live name
          match b.apply old value with
          | some result => return result
          | none => if live then fail .division else return 0 : Worker Int64)
      if live then
        let w ← get
        if (w.session.variableNamed name).readOnly then fail (.unassignable name)
        else set { w with session := w.session.assign name (textOf value) }
      return value
    | none => conditional n live

def conditional : Nat → (live : Bool) → Worker Int64
  | 0, _ => return 0
  | n + 1, live => do
    let test ← disjunction n live
    match ← front with
    | '?' :: rest =>
      moveTo rest
      let yes ← expression n (live && test != 0)
      match ← front with
      | ':' :: rest =>
        moveTo rest
        let no ← conditional n (live && test == 0)
        return if test != 0 then yes else no
      | _ => fail (.wanted "expecting ':'")
    | _ => return test

def disjunction : Nat → (live : Bool) → Worker Int64
  | 0, _ => return 0
  | n + 1, live => do
    let first ← conjunction n live
    match ← front with
    | '|' :: '|' :: rest =>
      moveTo rest
      let second ← disjunction n (live && first == 0)
      return truth (first != 0 || second != 0)
    | _ => return first

def conjunction : Nat → (live : Bool) → Worker Int64
  | 0, _ => return 0
  | n + 1, live => do
    let first ← primary n live
    let first ← operations n 0 live first
    match ← front with
    | '&' :: '&' :: rest =>
      moveTo rest
      let second ← conjunction n (live && first != 0)
      return truth (first != 0 && second != 0)
    | _ => return first

/-- Applies operators that bind more tightly than a level to a number. -/
def operations : Nat → (level : Nat) → (live : Bool) → Int64 → Worker Int64
  | 0, _, _, first => return first
  | n + 1, level, live, first => do
    let text ← front
    match binary? text with
    | none => return first
    | some b =>
      if b.level ≤ level then return first
      else
        moveTo (text.drop b.sign.length)
        let second ← primary n live
        let second ← operations n b.level live second
        match b.apply first second with
        | some result => operations n level live result
        | none => if live then fail .division else operations n level live 0

def primary : Nat → (live : Bool) → Worker Int64
  | 0, _ => return 0
  | n + 1, live => do
    let text ← front
    match text with
    | '(' :: rest =>
      moveTo rest
      let value ← expression n live
      match ← front with
      | ')' :: rest =>
        moveTo rest
        return value
      | _ => fail (.wanted "expecting ')'")
    | '-' :: rest =>
      moveTo rest
      return -(← primary n live)
    | '+' :: rest =>
      moveTo rest
      primary n live
    | '!' :: rest =>
      moveTo rest
      return truth ((← primary n live) == 0)
    | '~' :: rest =>
      moveTo rest
      return ~~~(← primary n live)
    | text =>
      if text.head?.any Char.isDigit then
        let (value, rest) := takeLiteral text
        moveTo rest
        return ofNat (min value largest)
      else
        let name := text.takeWhile isNamePart
        if name.isEmpty then fail (.wanted "expecting primary")
        else
          moveTo (text.drop name.length)
          valueOf live name

end

/-- Works out a whole expression. An error ends the shell. -/
def evaluate (s : Session) (text : Octets) : Octets × Session :=
  let whole : Worker Int64 := do
    if (← front).isEmpty then return 0
    let value ← expression (16 * text.length + 16) true
    if (← front).isEmpty then return value else fail (.wanted "expecting EOF")
  match whole.run ⟨text, s⟩ with
  | .ok (value, w) => (textOf value, w.session)
  | .error f =>
    let failed (message : String) : Session :=
      s.abort (Octets.ofString ("arithmetic expression: " ++ message ++ ": \"") ++ text ++ ['"'])
    ([], match f with
    | .wanted message => failed message
    | .division => failed "division by zero"
    | .notNumber text => s.abort ("Illegal number: ".toList ++ text)
    | .unassignable name => s.assign name [])

end ConnectorSchema.Filter.Shell.Arithmetic
