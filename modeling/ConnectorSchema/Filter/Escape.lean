import ConnectorSchema.Filter.Octets
import ConnectorSchema.Text.Backslash

/-!
Backslash escapes as programs read and show them.
-/

namespace ConnectorSchema.Filter

/-- The value of at most `width` octal digits, and what follows them. -/
def takeOctal (value : Nat) : (width : Nat) → Octets → Nat × Octets
  | 0, text => (value, text)
  | _, [] => (value, [])
  | width + 1, c :: text =>
    match Text.octal? c with
    | some d => takeOctal (value * 8 + d) width text
    | none => (value, c :: text)

/-- The byte with a number, of which only the low eight bits count. -/
def octetOf (n : Nat) : Char := Char.ofNat (n % 256)

/-- The byte that is written behind a backslash, and what follows. Where nothing known is written,
the backslash stands for itself. -/
def takeEscape (text : Octets) : Char × Octets :=
  match text with
  | [] => ('\\', [])
  | c :: rest =>
    if (Text.octal? c).isSome then
      let (value, rest) := takeOctal 0 3 text
      (octetOf value, rest)
    else
      match Text.letterEscape? c with
      | some b => (b, rest)
      | none => ('\\', text)

/-- A text with its escapes replaced, and whether the escape `\c`, which ends it, was not met. Octal
numbers may have a zero in front. The first argument bounds the number of steps; what has been read
is kept in reverse. -/
def unescapeSteps : Nat → (done : Octets) → Octets → Octets × Bool
  | 0, done, _ => (done.reverse, true)
  | _, done, [] => (done.reverse, true)
  | _, done, '\\' :: 'c' :: _ => (done.reverse, false)
  | steps + 1, done, '\\' :: '0' :: rest =>
    let (value, rest) := takeOctal 0 3 rest
    unescapeSteps steps (octetOf value :: done) rest
  | steps + 1, done, '\\' :: rest =>
    let (c, rest) := takeEscape rest
    unescapeSteps steps (c :: done) rest
  | steps + 1, done, c :: rest => unescapeSteps steps (c :: done) rest

def unescape (text : Octets) : Octets × Bool := unescapeSteps text.length [] text

/-- Three octal digits. -/
def octalDigits (c : Char) : Octets :=
  [c.toNat / 64, c.toNat / 8 % 8, c.toNat % 8].map Nat.digitChar

/-- The letter that is written for a byte behind a backslash. -/
def escapeLetter? : Char → Option Char
  | '\x07' => some 'a'
  | '\x08' => some 'b'
  | '\t' => some 't'
  | '\n' => some 'n'
  | '\x0b' => some 'v'
  | '\x0c' => some 'f'
  | '\r' => some 'r'
  | '\\' => some '\\'
  | _ => none

/-- A byte as it is shown in complaints. -/
def shown (c : Char) : Octets :=
  match escapeLetter? c with
  | some letter => ['\\', letter]
  | none => if 32 ≤ c.toNat && c.toNat < 127 then [c] else '\\' :: octalDigits c

/-- An argument between quotes, as it is shown in complaints. -/
def quoted (text : Octets) : String :=
  String.ofList ('\'' :: text.flatMap (fun c => if c = '\'' then ['\\', c] else shown c) ++ ['\''])

end ConnectorSchema.Filter
