import ConnectorSchema.Json.Fault

/-!
Numbers of a JSON document: the digits as written (`Numeral`) and what they stand for (`Number`). An
integer that a 64-bit word holds, signed or not, stays exact. Every other number becomes a double:
its leading digits, as many as an unsigned word holds, are rounded once, and the power of ten that
remains is multiplied or divided in, with its own rounding.
-/

namespace ConnectorSchema.Json

open ConnectorSchema.Number

/-- A number as written. `fraction` is empty when there is no point. -/
structure Numeral where
  negative : Bool
  whole : List Char
  fraction : List Char
  /-- The digits after `e`, and whether a minus precedes them. -/
  exponent : Option (Bool × List Char)
deriving DecidableEq

inductive Number where
  | integer (n : Int) (inRange : -9223372036854775808 ≤ n ∧ n ≤ 18446744073709551615)
  | double (d : Double)
deriving DecidableEq

namespace Number

def ofInt64 (n : Int64) : Number :=
  .integer n.toInt (by have := n.le_toInt; have := n.toInt_lt; omega)

/-- The double nearest to a JSON number. -/
def toDouble? : Number → Option Double
  | .integer n _ => Double.ofInt? n
  | .double d => some d

def text : Number → String
  | .integer n _ => toString n
  | .double d => d.jsonText

end Number

namespace Numeral

/-- Takes digits while the number fits an unsigned word; the rest of the digits comes back. -/
def accumulate : Nat → List Char → Nat × List Char
  | n, [] => (n, [])
  | n, d :: ds =>
    let next := n * 10 + (d.toNat - '0'.toNat)
    if next ≤ 18446744073709551615 then accumulate next ds else (n, d :: ds)

/-- The digits that fit a word, and the power of ten by which they are to be multiplied. Digits of
the whole part that do not fit still count as places; digits of the fraction do not. -/
def significand (n : Numeral) : Nat × Int :=
  let (whole, dropped) := accumulate 0 n.whole
  let (all, left) := accumulate whole n.fraction
  let shift : Int := dropped.length - (n.fraction.length - left.length : Nat)
  match n.exponent with
  | none => (all, shift)
  | some (true, digits) => (all, shift - ofDigits digits)
  | some (false, digits) => (all, shift + ofDigits digits)

/-- The double nearest to `10 ^ k`. -/
def powerOfTen? (k : Nat) : Option Double := Double.ofRatio? false (Nat.pow 10 k) 1

/-- The largest power of ten that is a double. -/
def largestPower : Nat := 308

/-- Divides by the largest power of ten, so many times. -/
def shrinkTimes : Nat → Double → Option Double
  | 0, d => some d
  | times + 1, d =>
    if d.isZero then some d
    else ((powerOfTen? largestPower).bind d.div?).bind (shrinkTimes times)

/-- `d / 10 ^ k`, in steps of at most the largest power of ten. -/
def shrink (d : Double) (k : Nat) : Option Double :=
  let times := (k - 1) / largestPower
  (shrinkTimes times d).bind fun quotient =>
    (powerOfTen? (k - times * largestPower)).bind quotient.div?

/-- `m · 10 ^ k` as a double; `none` when it is too large for one. -/
def scale? (m : Nat) (k : Int) : Option Double := do
  let d ← Double.ofRatio? false m 1
  if 0 ≤ k then
    if d.isZero then some d
    else if largestPower < k then none
    else d.mul? (← powerOfTen? k.toNat)
  else shrink d (-k).toNat

/-- The number that a numeral stands for. A negative zero is a double, since no integer is one. -/
def value (n : Numeral) : Except Fault Number :=
  let (m, k) := n.significand
  if h : n.fraction = [] ∧ n.exponent = none ∧ k = 0 ∧ m ≤ 18446744073709551615
      ∧ (n.negative = true → 0 < m ∧ m ≤ 9223372036854775808) then
    .ok (.integer (if n.negative then -(m : Int) else m) (by
      have small := h.2.2.2.1
      have signed := h.2.2.2.2
      cases negative : n.negative with
      | false => simp; omega
      | true => have := signed negative; simp; omega))
  else
    match scale? m k with
    | none => .error .numberOutOfRange
    | some d => .ok (.double (if n.negative then d.negate else d))

end Numeral

end ConnectorSchema.Json
