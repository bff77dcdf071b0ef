import ConnectorSchema.Number.Shortest

/-!
Two ways of writing a double, both with the fewest digits that read back. The plain one never uses
an exponent and adds nothing to a whole number. The JSON one keeps `.0`, so that a reader can tell
the number from an integer, and turns to an exponent outside a range.
-/

namespace ConnectorSchema.Number

/-- How a double is written. -/
structure DoubleFormat where
  tie : Tie
  /-- Whole numbers end in `.0`. -/
  keepsPoint : Bool
  /-- The range of magnitudes (digits before the point) that is written without an exponent;
  everything when absent. -/
  positional : Option (Int × Int)

/-- Descriptions and messages: `3`, `0.0000001`, `-0`. A tie goes away from zero. -/
def DoubleFormat.plain : DoubleFormat := ⟨.up, false, none⟩

/-- JSON text: `3.0`, `1e-7`, `-0.0`. A tie goes to the even digit, and numbers from `0.00001` up to
`10 ^ 16` have no exponent. -/
def DoubleFormat.json : DoubleFormat := ⟨.even, true, some (-4, 16)⟩

def zeros (n : Nat) : List Char := List.replicate n '0'

/-- Digits with a point in front of, within or behind them; `point` counts the digits before it. -/
def positionalDigits (keepsPoint : Bool) (digits : List Char) (point : Int) : List Char :=
  if point ≤ 0 then ['0', '.'] ++ zeros (-point).toNat ++ digits
  else if point < digits.length then
    digits.take point.toNat ++ '.' :: digits.drop point.toNat
  else
    digits ++ zeros (point.toNat - digits.length) ++ (if keepsPoint then ['.', '0'] else [])

/-- `d.ddde±n`, without a point when there is one digit. -/
def exponentDigits (digits : List Char) (point : Int) : List Char :=
  let mantissa :=
    match digits with
    | first :: second :: rest => first :: '.' :: second :: rest
    | digits => digits
  let sign := if point - 1 < 0 then '-' else '+'
  mantissa ++ 'e' :: sign :: Nat.toDigits 10 (point - 1).natAbs

def DoubleFormat.digits (format : DoubleFormat) (d : Double) : List Char :=
  if d.isZero then (if format.keepsPoint then ['0', '.', '0'] else ['0'])
  else
    let decimal := Decimal.shortest format.tie d
    let digits := Nat.toDigits 10 decimal.digits
    let point := decimal.exponent + digits.length
    match format.positional with
    | none => positionalDigits format.keepsPoint digits point
    | some (low, high) =>
      if low ≤ point ∧ point ≤ high then positionalDigits format.keepsPoint digits point
      else exponentDigits digits point

def DoubleFormat.write (format : DoubleFormat) (d : Double) : List Char :=
  if d.negative then '-' :: format.digits d else format.digits d

/-- A double in descriptions and messages. -/
def Double.plainText (d : Double) : String := String.ofList (DoubleFormat.plain.write d)

/-- A double as JSON. -/
def Double.jsonText (d : Double) : String := String.ofList (DoubleFormat.json.write d)

end ConnectorSchema.Number
