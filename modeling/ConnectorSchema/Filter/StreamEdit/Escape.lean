import ConnectorSchema.Filter.Octets
import ConnectorSchema.Filter.Escape

/-!
Escapes in scripts of the stream editor: letters for bytes, and bytes by number or as control keys.
-/

namespace ConnectorSchema.Filter.StreamEdit

/-- Why a script cannot be read, and what was left of it there. -/
structure Stop where
  rest : Octets
  message : String

/-- The value of a digit. -/
def digitValue? (c : Char) : Option Nat :=
  if c.isDigit then some (c.toNat - '0'.toNat)
  else if 'a' ≤ c.toLower ∧ c.toLower ≤ 'f' then some (c.toLower.toNat - 'a'.toNat + 10)
  else none

/-- The value of at most `width` digits, and what follows; nothing if there is no digit. -/
def takeValue (base : Nat) (width : Nat) (text : Octets) : Option (Nat × Octets) :=
  let digits := (text.take width).takeWhile fun c => (digitValue? c).any (· < base)
  if digits.isEmpty then none
  else
    some (digits.foldl (fun n c => n * base + (digitValue? c).getD 0) 0, text.drop digits.length)

/-- The key that a letter makes together with the control key. -/
def controlKey (c : Char) : Char :=
  let n := c.toUpper.toNat
  octetOf (if n / 64 % 2 = 1 then n - 64 else n + 64)

/-- The byte for the text behind a backslash, and what follows. -/
def takeByte (text : Octets) : Except String (Option (Char × Octets)) :=
  let valued (base width : Nat) (rest : Octets) : Option (Char × Octets) :=
    (takeValue base width rest).map fun found => (octetOf found.1, found.2)
  match text with
  | 'a' :: rest => .ok (some ('\x07', rest))
  | 'f' :: rest => .ok (some ('\x0c', rest))
  | 'n' :: rest => .ok (some ('\n', rest))
  | 'r' :: rest => .ok (some ('\r', rest))
  | 't' :: rest => .ok (some ('\t', rest))
  | 'v' :: rest => .ok (some ('\x0b', rest))
  | 'd' :: rest => .ok (valued 10 3 rest)
  | 'o' :: rest => .ok (valued 8 3 rest)
  | 'x' :: rest => .ok (valued 16 2 rest)
  | 'c' :: '\\' :: '\\' :: rest => .ok (some (controlKey '\\', rest))
  | 'c' :: '\\' :: _ => .error "recursive escaping after \\c not allowed"
  | 'c' :: key :: rest => .ok (some (controlKey key, rest))
  | _ => .ok none

/-- A pattern in which bytes stand for their escapes. All other backslashes are left. The first
argument bounds the number of steps. -/
def plainPattern : Nat → (done : Octets) → Octets → Except String Octets
  | 0, done, _ => .ok done.reverse
  | _, done, [] => .ok done.reverse
  | steps + 1, done, '\\' :: rest => do
    match ← takeByte rest, rest with
    | some (c, rest), _ => plainPattern steps (c :: done) rest
    | none, c :: rest => plainPattern steps (c :: '\\' :: done) rest
    | none, [] => plainPattern steps ('\\' :: done) []
  | steps + 1, done, c :: rest => plainPattern steps (c :: done) rest

end ConnectorSchema.Filter.StreamEdit
