import ConnectorSchema.Filter.Choice
import ConnectorSchema.Filter.Escape
import ConnectorSchema.Filter.Outcome
import ConnectorSchema.Filter.Span

/-!
The program `tr`: it replaces, deletes or squeezes single bytes. Sets of bytes are written as
sequences, in which classes, ranges and repetitions stand for the bytes they hold in order.
-/

namespace ConnectorSchema.Filter.Transliterate

/-- A byte of a written set, and whether it was written with a backslash, so that it means no more
than itself. -/
structure Letter where
  byte : Char
  plain : Bool

/-- The bytes that are written. An octal number beyond the last byte ends a digit earlier. The first
argument bounds the number of steps. -/
def lettersSteps : Nat → Octets → List Letter
  | 0, _ => []
  | _, [] => []
  | steps + 1, '\\' :: c :: rest =>
    if (Text.octal? c).isSome then
      let (value, after) := takeOctal 0 3 (c :: rest)
      let (value, after) := if value ≤ 255 then (value, after) else takeOctal 0 2 (c :: rest)
      ⟨octetOf value, false⟩ :: lettersSteps steps after
    else ⟨(Text.letterEscape? c).getD c, false⟩ :: lettersSteps steps rest
  | steps + 1, c :: rest => ⟨c, true⟩ :: lettersSteps steps rest

def lettersOf (text : Octets) : List Letter := lettersSteps text.length text

/-- A part of a set. -/
inductive Element where
  | span (s : Span)
  | classNamed (name : String) (spans : List Span)
  | equivalent (c : Char)
  | repeated (c : Char) (times : Nat)
  /-- As often as the other set needs it. -/
  | filling (c : Char)

namespace Element

/-- The bytes of a part; one that fills gets a number of places. -/
def members (room : Nat) : Element → Octets
  | .span s => s.members
  | .classNamed _ spans => spans.flatMap Span.members
  | .equivalent c => [c]
  | .repeated c times => List.replicate times c
  | .filling c => List.replicate room c

def isFilling : Element → Bool
  | .filling _ => true
  | _ => false

def isClass : Element → Bool
  | .classNamed .. => true
  | _ => false

def isEquivalent : Element → Bool
  | .equivalent _ => true
  | _ => false

/-- Whether a part is all large or all small letters. -/
def isCase : Element → Bool
  | .classNamed name _ => name = "upper" || name = "lower"
  | _ => false

end Element

/-- The bytes up to a closing mark such as `:]`, and what follows. -/
def takeNamed (mark : Char) : List Letter → Option (Octets × List Letter)
  | a :: b :: rest =>
    if a.plain && b.plain && a.byte = mark && b.byte = ']' then some ([], rest)
    else (takeNamed mark (b :: rest)).map fun found => (a.byte :: found.1, found.2)
  | _ => none

/-- What is written between `*` and `]`. -/
def takeCount : List Letter → Option (Octets × List Letter)
  | [] => none
  | a :: rest =>
    if !a.plain then none
    else if a.byte = ']' then some ([], rest)
    else (takeCount rest).map fun found => (a.byte :: found.1, found.2)

/-- The repetition in brackets at the front, behind the opening bracket. A number with a zero in
front is octal. -/
def takeRepetition (letters : List Letter) : Option (Except String (Element × List Letter)) :=
  match letters with
  | c :: star :: rest =>
    if !star.plain || star.byte ≠ '*' then none
    else
      (takeCount rest).map fun (count, rest) =>
        let (value, behind) : Nat × Octets :=
          if count.head? = some '0' then takeOctal 0 count.length count
          else (Octets.number (count.takeWhile Char.isDigit), count.dropWhile Char.isDigit)
        if !behind.isEmpty then
          .error ("invalid repeat count " ++ quoted count ++ " in [c*n] construct")
        else if value = 0 then .ok (.filling c.byte, rest)
        else .ok (.repeated c.byte value, rest)
  | _ => none

/-- The class in brackets at the front, behind the opening bracket. -/
def takeClass (letters : List Letter) : Option (Except String (Element × List Letter)) :=
  match letters with
  | ⟨':', true⟩ :: rest =>
    (takeNamed ':' rest).map fun (name, after) =>
      match Span.named? name.toText with
      | some spans => .ok (.classNamed name.toText spans, after)
      | none =>
        if name.isEmpty then .error "missing character class name '[::]'"
        else (takeRepetition letters).getD (.error ("invalid character class " ++ quoted name))
  | ⟨'=', true⟩ :: rest =>
    (takeNamed '=' rest).map fun (name, after) =>
      match name with
      | [c] => .ok (.equivalent c, after)
      | [] => .error "missing equivalence class character '[==]'"
      | name =>
        (takeRepetition letters).getD
          (.error (name.toText ++ ": equivalence class operand must be a single character"))
  | _ => none

/-- The part at the front of a set. -/
def takeElement (first : Letter) (rest : List Letter) : Except String (Element × List Letter) :=
  let bracketed :=
    if first.plain && first.byte = '[' && 2 ≤ rest.length then
      match takeClass rest with
      | some found => some found
      | none => takeRepetition rest
    else none
  match bracketed, rest with
  | some found, _ => found
  | none, ⟨'-', true⟩ :: last :: after =>
    if first.byte ≤ last.byte then .ok (.span ⟨first.byte, last.byte⟩, after)
    else
      .error ("range-endpoints of '" ++ String.ofList (shown first.byte ++ '-' :: shown last.byte)
        ++ "' are in reverse collating sequence order")
  | none, rest => .ok (.span (.single first.byte), rest)

/-- The parts of a set. The first argument bounds the number of steps. -/
def elementsSteps : Nat → List Letter → Except String (List Element)
  | 0, _ => .ok []
  | _, [] => .ok []
  | steps + 1, first :: rest => do
    let (element, rest) ← takeElement first rest
    return element :: (← elementsSteps steps rest)

def elementsOf (text : Octets) : Except String (List Element) :=
  let letters := lettersOf text
  elementsSteps letters.length letters

/-- The bytes of a set when `room` places are there for parts that fill. -/
def membersOf (room : Nat) (elements : List Element) : Octets :=
  elements.flatMap (Element.members room)

/-- All bytes that are not in a set. -/
def complement (set : Octets) : Octets := Span.all.members.filter fun c => !set.contains c

structure Options where
  complements : Bool
  deletes : Bool
  squeezes : Bool
  truncates : Bool

/-- Where the parts of a set begin, counted in bytes. -/
def offsets (elements : List Element) : List (Nat × Element) :=
  (elements.foldl
    (fun (state : Nat × List (Nat × Element)) e =>
      (state.1 + (e.members 0).length, (state.1, e) :: state.2)) (0, [])).2.reverse

/-- Whether each class of letters in the second set stands where the first has one too. -/
def aligned (first second : List Element) : Bool :=
  let length := (membersOf 0 first).length
  let starts := (offsets first).filter (·.2.isCase) |>.map (·.1)
  (offsets second).all fun (start, e) => !e.isCase || length < start || starts.contains start

/-- How the second set goes with the first when bytes are replaced: its bytes, as many as the first
set has. -/
def matched (o : Options) (first second : List Element) : Except String Octets :=
  let wanted := membersOf 0 first
  let wanted := if o.complements then complement wanted else wanted
  let given := membersOf 0 second
  let filled := membersOf (wanted.length - given.length) second
  let lasting := wanted.length - filled.length
  let full := filled ++ List.replicate lasting (filled.getLast?.getD ' ')
  if second.any Element.isEquivalent then
    .error "[=c=] expressions may not appear in string2 when translating"
  else if second.any fun e => e.isClass && !e.isCase then
    .error ("when translating, the only character classes that may appear in\n"
      ++ "string2 are 'upper' and 'lower'")
  else if !o.complements && !aligned first second then
    .error "misaligned [:upper:] and/or [:lower:] construct"
  else if 0 < lasting && !o.truncates && filled.isEmpty then
    .error "when not truncating set1, string2 must be non-empty"
  else if 0 < lasting && !o.truncates && second.getLast?.any Element.isClass then
    .error ("when translating with string1 longer than string2,\n"
      ++ "the latter string must not end with a character class")
  else
    let result := if o.truncates then filled else full
    if o.complements && first.any Element.isClass && result.eraseDups.length ≠ 1 then
      .error ("when translating with complemented character classes,\n"
        ++ "string2 must map all characters in the domain to one")
    else .ok result

/-- The byte for `c`: the one at its last place in `old`. -/
def replacement (old new : Octets) (c : Char) : Char :=
  (((old.zip new).reverse.find? (·.1 = c)).map (·.2)).getD c

/-- Replaces all bytes by a table. -/
def replaceAll (old new text : Octets) : Octets :=
  let table := (Span.all.members.map (replacement old new)).toArray
  text.map fun c => (table[c.toNat]?).getD c

/-- Drops repetitions of the bytes in a set. -/
def squeeze (set text : Octets) : Octets :=
  (text.foldl
    (fun kept c => if kept.head? = some c && set.contains c then kept else c :: kept) []).reverse

def delete (set text : Octets) : Octets := text.filter fun c => !set.contains c

/-- What is done to a text, as the operands ask for it. -/
def plan (o : Options) (first : List Element) (second? : Option (List Element)) :
    Except String (Octets → Octets) :=
  let named := membersOf 0 first
  let set := if o.complements then complement named else named
  if first.any Element.isFilling then
    .error "the [c*] repeat construct may not appear in string1"
  else
    match second? with
    | none => .ok (if o.deletes then delete set else squeeze set)
    | some second =>
      if 1 < (second.filter Element.isFilling).length then
        .error "only one [c*] repeat construct may appear in string2"
      else if o.deletes then
        if second.any Element.isFilling then
          .error "the [c*] construct may appear in string2 only when translating"
        else .ok fun text => squeeze (membersOf 0 second) (delete set text)
      else do
        let new ← matched o first second
        let replace := replaceAll set new
        return if o.squeezes then fun text => squeeze new (replace text) else replace

def choiceNames : ChoiceNames where
  flags := ['c', 'C', 'd', 's', 't']
  valued := []
  attached := []
  long := [("complement", 'c'), ("delete", 'd'), ("squeeze-repeats", 's'), ("truncate-set1", 't')]

/-- What is wrong with the number of operands. -/
def miscount? (o : Options) (operands : List Octets) : Option String :=
  let least := if o.deletes = o.squeezes then 2 else 1
  let most := if o.deletes && !o.squeezes then 1 else 2
  match operands with
  | [] => some "missing operand"
  | [only] =>
    if least ≤ 1 then none
    else
      some ("missing operand after " ++ quoted only
        ++ (if o.squeezes then
          "\nTwo strings must be given when both deleting and squeezing repeats."
        else "\nTwo strings must be given when translating."))
  | _ :: second :: rest =>
    match (if most = 1 then some second else rest.head?) with
    | none => none
    | some extra =>
      some ("extra operand " ++ quoted extra
        ++ (if rest.isEmpty then
          "\nOnly one string may be given when deleting without squeezing repeats."
        else ""))

def program : Program := fun t =>
  match choiceNames.read t.arguments with
  | .error message => t.refuses 1 (misused t.name message)
  | .ok (choices, operands) =>
    let has := chosen choices
    let o : Options := ⟨has 'c' || has 'C', has 'd', has 's', has 't'⟩
    match miscount? o operands with
    | some message => t.refuses 1 (misused t.name message)
    | none =>
      match operands.mapM elementsOf with
      | .error message => t.refuses 1 (t.remark message)
      | .ok sets =>
        match plan o (sets.headD []) sets[1]? with
        | .error message => t.refuses 1 (t.remark message)
        | .ok change =>
          match t.input with
          | some text => t.ends 0 (change text) []
          | none => t.ends 1 [] (t.remark "read error: Bad file descriptor")

end ConnectorSchema.Filter.Transliterate
