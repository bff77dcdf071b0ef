import ConnectorSchema.Number.Double

/-!
The shortest decimal that reads back as a given double. The decimals that do so form an interval
around the double, its ends included when the mantissa is even. On each decimal grid, coarsest
first, only the two neighbours of the double have to be tried.
-/

namespace ConnectorSchema.Number

/-- `digits · 10 ^ exponent`. -/
structure Decimal where
  digits : Nat
  exponent : Int
deriving DecidableEq, Repr

/-- Which of two equally near decimals is taken. -/
inductive Tie where
  | up
  | even
deriving DecidableEq, Repr

namespace Decimal

/-- The interval that rounds to a double, as numerators over one denominator: the double itself, the
lower end and the upper end. -/
structure Interval where
  value : Nat
  low : Nat
  high : Nat
  denominator : Nat
  closed : Bool

/-- The interval of a double. Below a power of two (`2 ^ 52` as a mantissa) the gap is half as wide. -/
def Interval.ofDouble (d : Double) : Interval :=
  let unit := Nat.pow 2 (d.exponent - 2).toNat
  let gapBelow := if d.mantissa = 4503599627370496 ∧ -1074 < d.exponent then 1 else 2
  ⟨4 * d.mantissa * unit, (4 * d.mantissa - gapBelow) * unit, (4 * d.mantissa + 2) * unit,
    Nat.pow 2 (2 - d.exponent).toNat, d.mantissa % 2 == 0⟩

/-- Multiplies the interval by `10 ^ -k`. -/
def Interval.onGrid (i : Interval) (k : Int) : Interval :=
  let up := Nat.pow 10 (-k).toNat
  ⟨i.value * up, i.low * up, i.high * up, i.denominator * Nat.pow 10 k.toNat, i.closed⟩

def Interval.contains (i : Interval) (n : Nat) : Bool :=
  let x := n * i.denominator
  if i.closed then i.low ≤ x && x ≤ i.high else i.low < x && x < i.high

/-- The neighbour of the double, among those in the interval, that is nearest to it. -/
def Interval.nearest? (i : Interval) (tie : Tie) : Option Nat :=
  let below := i.value / i.denominator
  let rest := i.value % i.denominator
  let above := below + 1
  match i.contains below, i.contains above with
  | false, false => none
  | true, false => some below
  | false, true => some above
  | true, true =>
    if 2 * rest < i.denominator then some below
    else if i.denominator < 2 * rest then some above
    else if tie = .even ∧ below % 2 = 0 then some below
    else some above

/-- The number of decimal digits before the point of a fraction; below one, the negated number of
zeros after it. -/
def magnitude (numerator denominator : Nat) : Int :=
  let guess := ((numerator.log2 : Int) - denominator.log2) * 30103 / 100000 - 1
  let reaches (k : Int) : Bool :=
    denominator * Nat.pow 10 k.toNat ≤ numerator * Nat.pow 10 (-k).toNat
  if reaches (guess + 2) then guess + 3
  else if reaches (guess + 1) then guess + 2
  else if reaches guess then guess + 1
  else guess

/-- Tries grids of `count`, `count + 1`, … digits, `fuel` of them. -/
def search (i : Interval) (tie : Tie) (top : Int) : (count fuel : Nat) → Option Decimal
  | _, 0 => none
  | count, fuel + 1 =>
    let k := top - count
    match (i.onGrid k).nearest? tie with
    | some n => some ⟨n, k⟩
    | none => search i tie top (count + 1) fuel

/-- Moves zeros at the end of the digits into the exponent. -/
def strip : Nat → Decimal → Decimal
  | 0, d => d
  | fuel + 1, d =>
    if d.digits ≠ 0 ∧ d.digits % 10 = 0 then strip fuel ⟨d.digits / 10, d.exponent + 1⟩ else d

/-- The shortest decimal in the interval of the magnitude of `d`. Seventeen digits always suffice. -/
def shortest (tie : Tie) (d : Double) : Decimal :=
  if d.isZero then ⟨0, 0⟩
  else
    let i := Interval.ofDouble d
    match search i tie (magnitude i.value i.denominator) 1 17 with
    | some r => strip 17 r
    | none => ⟨0, 0⟩

end Decimal

end ConnectorSchema.Number
