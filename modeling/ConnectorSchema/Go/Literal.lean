/-!
Interpreted string literals of Go.
-/

namespace ConnectorSchema.Go

/-- Control characters: those below the space, and those from the delete character up to 159. -/
def isControl (c : Char) : Bool := c.toNat < 32 || (127 ≤ c.toNat && c.toNat < 160)

/-- Four hexadecimal digits. -/
def hex4 (n : Nat) : List Char :=
  [Nat.digitChar (n / 4096 % 16), Nat.digitChar (n / 256 % 16), Nat.digitChar (n / 16 % 16),
    Nat.digitChar (n % 16)]

/-- A character between the quotes of a literal. -/
def literalChar (c : Char) : List Char :=
  match c with
  | '"' => ['\\', '"']
  | '\\' => ['\\', '\\']
  | '\n' => ['\\', 'n']
  | '\r' => ['\\', 'r']
  | '\t' => ['\\', 't']
  | c => if isControl c then '\\' :: 'u' :: hex4 c.toNat else [c]

def literalChars (s : String) : List Char := '"' :: s.toList.flatMap literalChar ++ ['"']

/-- The literal whose value is `s`. -/
def literal (s : String) : String := String.ofList (literalChars s)

end ConnectorSchema.Go
