/-!
Texts with control sequences for a terminal, and what is left of them on a stream that is none. A
sequence begins with ESC, and what follows decides how far it goes. Line breaks and tabs are kept
even within a sequence, and after them characters show again.
-/

namespace ConnectorSchema.Text.Terminal

/-- A control sequence that gives the characters after it a look. -/
inductive Style where
  | bold
  | alarming
  | doubtful
deriving DecidableEq, Repr

def Style.sequence : Style → String
  | .bold => "\x1b[1m"
  | .alarming => "\x1b[1m\x1b[31m"
  | .doubtful => "\x1b[33m"

/-- A text in a style of its own. -/
def styled (style : Style) (text : String) : String := style.sequence ++ text ++ "\x1b[0m"

/-- How far a control sequence has come. -/
inductive State where
  /-- No sequence is open. -/
  | ground
  | escape
  | intermediate
  /-- After `ESC [`, up to a letter. -/
  | parameters
  /-- After `ESC ]`, up to BEL. -/
  | title
  /-- After `ESC P`, in front of a device's own text. -/
  | device
  /-- Text that is meant for a device. -/
  | message
deriving DecidableEq, Repr

/-- The control characters that count as blanks. -/
def isBlankControl (c : Char) : Bool := c = '\t' || c = '\n' || c = '\x0c' || c = '\r'

/-- Whether a character shows outside of sequences. -/
def isShown (c : Char) : Bool := (32 ≤ c.toNat && c.toNat ≠ 127) || isBlankControl c

/-- Whether a character shows in the middle of a sequence. -/
def State.shows (s : State) (c : Char) : Bool :=
  match s with
  | .ground => isShown c
  | .escape | .intermediate | .parameters => isBlankControl c
  | _ => false

def isBetween (low high : Nat) (c : Char) : Bool := low ≤ c.toNat && c.toNat ≤ high

/-- Whether the encoding of a character has the byte that closes a device's text. -/
def closesMessage (c : Char) : Bool :=
  127 < c.toNat && (String.singleton c).toUTF8.toList.contains 0x9C

/-- The state after a character. -/
def State.next (s : State) (c : Char) : State :=
  if c = '\x1b' then .escape
  else if c = '\x18' ∨ c = '\x1a' then .ground
  else
    match s with
    | .ground => .ground
    | .escape =>
      if c = '[' then .parameters
      else if c = ']' then .title
      else if c = 'P' then .device
      else if c = 'X' ∨ c = '^' ∨ c = '_' then .message
      else if isBetween 0x20 0x2F c then .intermediate
      else if isBetween 0x30 0x7E c then .ground
      else .escape
    | .intermediate => if isBetween 0x30 0x7E c then .ground else .intermediate
    | .parameters => if isBetween 0x40 0x7E c then .ground else .parameters
    | .title => if c = '\x07' then .ground else .title
    | .device => if isBetween 0x40 0x7E c then .message else .device
    | .message => if closesMessage c then .ground else .message

/-- The characters that show. While `showing`, an open sequence hides nothing: it goes on with the
next character that does not show. -/
def shownChars (s : State) (showing : Bool) : List Char → List Char
  | [] => []
  | c :: rest =>
    if showing && isShown c then
      c :: shownChars (if c.toNat < 128 then s else .ground) true rest
    else if s.shows c then c :: shownChars (s.next c) true rest
    else shownChars (s.next c) false rest

/-- A text without control sequences and without control characters that are no blanks. -/
def plain (text : String) : String := String.ofList (shownChars .ground false text.toList)

end ConnectorSchema.Text.Terminal
