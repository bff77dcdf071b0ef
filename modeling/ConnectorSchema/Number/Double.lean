import ConnectorSchema.Number.Integer

/-!
Finite numbers of double precision as exact values: a sign and `mantissa · 2 ^ exponent`, in the one
form in which each value (and each of the two zeros) is written. Arithmetic is done exactly on
natural numbers and rounded once, a tie to the even mantissa; a result beyond the largest finite
number is `none`.
-/

namespace ConnectorSchema.Number

/-- The form every finite double has: 53 bits of mantissa, fewer only at the least exponent. The
numbers here are `2 ^ 53` and `2 ^ 52`. -/
def CanonicalParts (mantissa : Nat) (exponent : Int) : Prop :=
  mantissa < 9007199254740992 ∧ -1074 ≤ exponent ∧ exponent ≤ 971
    ∧ (4503599627370496 ≤ mantissa ∨ exponent = -1074)

instance (mantissa : Nat) (exponent : Int) : Decidable (CanonicalParts mantissa exponent) :=
  inferInstanceAs (Decidable (_ ∧ _ ∧ _ ∧ _))

structure Double where
  negative : Bool
  mantissa : Nat
  exponent : Int
  canonical : CanonicalParts mantissa exponent
deriving DecidableEq

namespace Double

def zero (negative : Bool) : Double :=
  ⟨negative, 0, -1074, by decide⟩

def isZero (d : Double) : Bool := d.mantissa == 0

def negate (d : Double) : Double := { d with negative := !d.negative }

/-- The double with these parts, if they have the canonical form. -/
def ofParts? (negative : Bool) (mantissa : Nat) (exponent : Int) : Option Double :=
  if h : CanonicalParts mantissa exponent then some ⟨negative, mantissa, exponent, h⟩ else none

/-- `numerator / denominator · 2 ^ -exponent` as a fraction of natural numbers. -/
def scaled (numerator denominator : Nat) (exponent : Int) : Nat × Nat :=
  (numerator * Nat.pow 2 (-exponent).toNat, denominator * Nat.pow 2 exponent.toNat)

/-- The integer nearest to a fraction, a tie going to the even one. -/
def roundHalfEven (numerator denominator : Nat) : Nat :=
  let q := numerator / denominator
  let r := numerator % denominator
  if denominator < 2 * r ∨ (2 * r = denominator ∧ q % 2 = 1) then q + 1 else q

/-- The exponent at which a positive fraction has a mantissa of 53 bits, or the least exponent. -/
def exponentFor (numerator denominator : Nat) : Int :=
  let low := max ((numerator.log2 : Int) - denominator.log2 - 53) (-1074)
  let (n, d) := scaled numerator denominator low
  if 9007199254740992 ≤ n / d then low + 1 else low

/-- The double nearest to `± numerator / denominator`; `none` when that is beyond all of them. -/
def ofRatio? (negative : Bool) (numerator denominator : Nat) : Option Double :=
  if numerator = 0 then some (zero negative)
  else
    let exponent := exponentFor numerator denominator
    let (n, d) := scaled numerator denominator exponent
    let mantissa := roundHalfEven n d
    if mantissa = 9007199254740992 then ofParts? negative 4503599627370496 (exponent + 1)
    else ofParts? negative mantissa exponent

/-- The magnitude of a double as a fraction of natural numbers. -/
def ratio (d : Double) : Nat × Nat :=
  (d.mantissa * Nat.pow 2 d.exponent.toNat, Nat.pow 2 (-d.exponent).toNat)

def mul? (a b : Double) : Option Double :=
  ofRatio? (a.negative != b.negative) (a.ratio.1 * b.ratio.1) (a.ratio.2 * b.ratio.2)

/-- The rounded quotient of `a` by a nonzero `b`. -/
def div? (a b : Double) : Option Double :=
  ofRatio? (a.negative != b.negative) (a.ratio.1 * b.ratio.2) (a.ratio.2 * b.ratio.1)

/-- The double nearest to an integer. -/
def ofInt? (n : Int) : Option Double := ofRatio? (n < 0) n.natAbs 1

/-- The integer that a double is, if it has no fraction. -/
def toInt? (d : Double) : Option Int :=
  let (n, m) := d.ratio
  if n % m = 0 then some (if d.negative then -(n / m : Nat) else (n / m : Nat)) else none

/-- The numerator of a double that is written with the denominator of its ratio. -/
def numerator (d : Double) : Int := if d.negative then -(d.ratio.1 : Int) else d.ratio.1

/-- Whether a double is at most another one. -/
def le (a b : Double) : Bool := a.numerator * b.ratio.2 ≤ b.numerator * a.ratio.2

/-- The word for an integral double within the limits of the words. The limits are taken as doubles. -/
def toInt64? (d : Double) : Option Int64 := do
  let least ← ofInt? Int64.minValue.toInt
  let greatest ← ofInt? Int64.maxValue.toInt
  let n ← d.toInt?
  if least.le d && d.le greatest then some (saturated n) else none

end Double

end ConnectorSchema.Number
