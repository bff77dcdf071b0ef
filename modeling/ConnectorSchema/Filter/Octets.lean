import ConnectorSchema.Text.Utf8

/-!
Strings of bytes, as programs read and write them. A byte is shown as the character with its number,
so that ASCII looks like itself; programs that work on bytes know no other letters.
-/

namespace ConnectorSchema.Filter

abbrev Bytes := List UInt8

export Text (bytesOf)

/-- A string of bytes, each as the character with its number. -/
abbrev Octets := List Char

namespace Octets

def ofBytes (bytes : Bytes) : Octets := bytes.map fun b => Char.ofNat b.toNat

def toBytes (text : Octets) : Bytes := text.map fun c => UInt8.ofNat c.toNat

def ofString (s : String) : Octets := ofBytes (bytesOf s)

/-- The text that the bytes spell. -/
def toText (text : Octets) : String := Text.Utf8.decodeLossy (toBytes text)

def ofNat (n : Nat) : Octets := (toString n).toList

/-- The number that a string of digits spells. -/
def number (digits : Octets) : Nat := digits.foldl (fun n d => n * 10 + (d.toNat - '0'.toNat)) 0

/-- The number that a whole text spells, if it is all digits. -/
def number? (text : Octets) : Option Nat :=
  if text.isEmpty || !text.all Char.isDigit then none else some (number text)

def isBlank (c : Char) : Bool := c = ' ' || c = '\t'

/-- Blanks, and the bytes that end lines and pages. -/
def isSpace (c : Char) : Bool := c = ' ' || ('\t' ≤ c && c ≤ '\r')

/-- What a text has in front of a byte, and what it has behind it if the byte is there. -/
def cutAt (mark : Char) (text : Octets) : Octets × Option Octets :=
  match text.dropWhile (· ≠ mark) with
  | [] => (text, none)
  | _ :: rest => (text.takeWhile (· ≠ mark), some rest)

/-- The parts of a text between marks. There is one part more than there are marks. -/
def splitAt (mark : Char) (text : Octets) : List Octets :=
  text.foldr
    (fun c parts =>
      match parts with
      | [] => if c = mark then [[], []] else [[c]]
      | part :: others => if c = mark then [] :: part :: others else (c :: part) :: others)
    [[]]

end Octets

/-- A line without its end, and whether it has one. -/
structure Line where
  text : Octets
  ended : Bool
deriving DecidableEq

/-- The lines of a text. Only the last may lack its end. -/
def linesOf (mark : Char) (text : Octets) : List Line :=
  text.foldr
    (fun c lines =>
      if c = mark then ⟨[], true⟩ :: lines
      else
        match lines with
        | [] => [⟨[c], false⟩]
        | line :: others => { line with text := c :: line.text } :: others)
    []

end ConnectorSchema.Filter
