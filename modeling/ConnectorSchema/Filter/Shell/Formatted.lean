import ConnectorSchema.Filter.Escape
import ConnectorSchema.Filter.Shell.Arithmetic

/-!
Formats: texts with places into which arguments are put, as `printf` uses them. A format is used again
until there are no more arguments.
-/

namespace ConnectorSchema.Filter.Shell.Formatted

/-- A place in a format. -/
structure Directive where
  flags : Octets
  width : Nat
  precision? : Option Nat
  letter : Char

/-- How far the filling has come. -/
structure Filling where
  /-- What has been written, in reverse. -/
  done : Octets
  arguments : List Octets
  complaints : List Octets
  /-- Whether nothing more is to be written. -/
  stopped : Bool
  /-- Whether the format itself is wrong. -/
  broken : Bool

def Filling.put (f : Filling) (text : Octets) : Filling := { f with done := text.reverse ++ f.done }

/-- The next argument. -/
def Filling.take (f : Filling) : Option Octets × Filling :=
  match f.arguments with
  | [] => (none, f)
  | a :: rest => (some a, { f with arguments := rest })

/-- The number that an argument spells, and a complaint if it is not all a number. A byte behind a
quote stands for its own number. -/
def numberOf (text : Octets) : Int × Option Octets :=
  match text with
  | '\'' :: c :: _ => (c.toNat, none)
  | '"' :: c :: _ => (c.toNat, none)
  | text =>
    let trimmed := text.dropWhile Octets.isSpace
    let (negative, digits) :=
      match trimmed with
      | '-' :: rest => (true, rest)
      | '+' :: rest => (false, rest)
      | rest => (false, rest)
    let (n, rest) := Arithmetic.takeLiteral digits
    let value : Int := if negative then -(n : Int) else n
    if !digits.head?.any Char.isDigit then (0, some (text ++ ": expected numeric value".toList))
    else if !rest.isEmpty then (value, some (text ++ ": not completely converted".toList))
    else (value, none)

def Filling.takeNumber (f : Filling) : Int × Filling :=
  match f.take with
  | (none, f) => (0, f)
  | (some text, f) =>
    let (n, complaint?) := numberOf text
    (n, { f with complaints := f.complaints ++ complaint?.toList })

/-- A text in a field of some width. -/
def Directive.pad (d : Directive) (text : Octets) : Octets :=
  let gap := List.replicate (d.width - text.length) ' '
  if d.flags.contains '-' then text ++ gap else gap ++ text

/-- The digits of a number behind a sign, with zeros in front as the directive asks for them. -/
def Directive.padNumber (d : Directive) (sign digits : Octets) : Octets :=
  let digits :=
    match d.precision? with
    | some 0 => if digits = ['0'] then [] else digits
    | some p => List.replicate (p - digits.length) '0' ++ digits
    | none => digits
  if d.flags.contains '0' && !d.flags.contains '-' && d.precision?.isNone then
    sign ++ List.replicate (d.width - sign.length - digits.length) '0' ++ digits
  else d.pad (sign ++ digits)

def Directive.putSigned (d : Directive) (n : Int) : Octets :=
  let sign : Octets :=
    if n < 0 then ['-']
    else if d.flags.contains '+' then ['+']
    else if d.flags.contains ' ' then [' ']
    else []
  d.padNumber sign (Octets.ofNat n.natAbs)

/-- Digits in some base, of which the letters may be large. -/
def digitsIn (base : Nat) (large : Bool) (n : Nat) : Octets :=
  let digits := Nat.toDigits base n
  if large then digits.map Char.toUpper else digits

def Directive.putUnsigned (d : Directive) (n : Int) : Octets :=
  let n := (n % 18446744073709551616).toNat
  let marked := d.flags.contains '#' && n ≠ 0
  match d.letter with
  | 'o' => d.padNumber (if marked then ['0'] else []) (digitsIn 8 false n)
  | 'x' => d.padNumber (if marked then ['0', 'x'] else []) (digitsIn 16 false n)
  | 'X' => d.padNumber (if marked then ['0', 'X'] else []) (digitsIn 16 true n)
  | _ => d.padNumber [] (Octets.ofNat n)

/-- Fills one place. -/
def Filling.fill (f : Filling) (d : Directive) : Filling :=
  let cut (text : Octets) : Octets :=
    match d.precision? with
    | some p => text.take p
    | none => text
  match d.letter with
  | 's' =>
    let (text?, f) := f.take
    f.put (d.pad (cut (text?.getD [])))
  | 'c' =>
    let (text?, f) := f.take
    f.put (d.pad ((text?.getD []).take 1))
  | 'b' =>
    let (text?, f) := f.take
    let (text, goesOn) := unescape (text?.getD [])
    { f.put (d.pad (cut text)) with stopped := !goesOn }
  | letter =>
    let (n, f) := f.takeNumber
    f.put (if letter = 'd' || letter = 'i' then d.putSigned n else d.putUnsigned n)

/-- A width or a precision, which may be an argument, and what follows. -/
def takeSize (f : Filling) (text : Octets) : Option Int × Octets × Filling :=
  match text with
  | '*' :: rest =>
    let (n, f) := f.takeNumber
    (some n, rest, f)
  | text =>
    let digits := text.takeWhile Char.isDigit
    (if digits.isEmpty then none else some (Octets.number digits), text.drop digits.length, f)

/-- The directive behind a percent sign, and what follows. -/
def takeDirective (f : Filling) (text : Octets) : Directive × Octets × Filling :=
  let flags := text.takeWhile ['#', '-', '+', ' ', '0'].contains
  let (width?, rest, f) := takeSize f (text.drop flags.length)
  let width := width?.getD 0
  let flags := if width < 0 then '-' :: flags else flags
  let (precision?, rest, f) : Option Nat × Octets × Filling :=
    match rest with
    | '.' :: rest =>
      let (p?, rest, f) := takeSize f rest
      (some (p?.getD 0).toNat, rest, f)
    | rest => (none, rest, f)
  (⟨flags, width.natAbs, precision?, rest.headD '\x00'⟩, rest.drop 1, f)

/-- Goes once through a format. The first argument bounds the number of steps. -/
def fillOnce : Nat → Octets → Filling → Filling
  | 0, _, f => f
  | _, [], f => f
  | steps + 1, '\\' :: rest, f =>
    let (c, rest) := takeEscape rest
    fillOnce steps rest (f.put [c])
  | steps + 1, '%' :: '%' :: rest, f => fillOnce steps rest (f.put ['%'])
  | steps + 1, '%' :: text, f =>
    let (d, rest, f) := takeDirective f text
    if d.letter = '\x00' then
      { f with complaints := f.complaints ++ ["missing format character".toList], broken := true }
    else if ['s', 'c', 'b', 'd', 'i', 'o', 'u', 'x', 'X'].contains d.letter then
      let f := f.fill d
      if f.stopped then f else fillOnce steps rest f
    else
      let written := '%' :: text.take (text.length - rest.length)
      { f with
        complaints := f.complaints ++ [written ++ ": invalid directive".toList], broken := true }
  | steps + 1, c :: rest, f => fillOnce steps rest (f.put [c])

/-- Goes through a format until the arguments are used up. The first argument bounds how often. -/
def fillAll (format : Octets) : Nat → Filling → Filling
  | 0, f => f
  | rounds + 1, f =>
    let after := fillOnce format.length format f
    if after.stopped || after.broken || after.arguments.isEmpty
        || after.arguments.length = f.arguments.length then after
    else fillAll format rounds after

/-- What a format makes of arguments. -/
def of (format : Octets) (arguments : List Octets) : Filling :=
  fillAll format (arguments.length + 1) ⟨[], arguments, [], false, false⟩

end ConnectorSchema.Filter.Shell.Formatted
