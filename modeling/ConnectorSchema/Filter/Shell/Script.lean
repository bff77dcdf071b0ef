import ConnectorSchema.Filter.Octets

/-!
Shell scripts: commands made of words, and words made of pieces that are worked out when a command
runs.
-/

namespace ConnectorSchema.Filter.Shell

inductive Direction where
  | input
  | output
  | append
  | both
  /-- The stream becomes a copy of another one. -/
  | copy
  /-- The input is a text in the script, which has a number. -/
  | document (number : Nat)
deriving DecidableEq

mutual

/-- A part of a word. -/
inductive Piece where
  | char (c : Char) (quoted : Bool)
  /-- Quotes that may hold nothing. They make a word of what is empty. -/
  | quotes
  | parameter (name : Octets) (use : Use) (quoted : Bool)
  /-- The output of commands. -/
  | command (script : Command) (quoted : Bool)
  | number (expression : List Piece) (quoted : Bool)
  /-- Something that was written as a parameter but is none. -/
  | wrong

/-- What is made of a parameter. Where a parameter that is not set is treated apart, one that is empty
can be treated alike. -/
inductive Use where
  | value
  | length
  | default (ifEmpty : Bool) (word : List Piece)
  | assign (ifEmpty : Bool) (word : List Piece)
  | demand (ifEmpty : Bool) (word : List Piece)
  | instead (ifEmpty : Bool) (word : List Piece)
  /-- The value without what a pattern matches at one of its ends. -/
  | trim (fromEnd longest : Bool) (word : List Piece)

inductive Redirection where
  | to (stream : Nat) (direction : Direction) (word : List Piece)

inductive Command where
  | nothing
  /-- A call of what the first word names, with assignments in front. -/
  | simple (line : Nat) (assignments : List (Octets × List Piece)) (words : List (List Piece))
      (redirections : List Redirection)
  | pipeline (commands : List Command)
  | inverted (c : Command)
  | onSuccess (first second : Command)
  | onFailure (first second : Command)
  | sequence (first second : Command)
  | background (c : Command)
  | subshell (c : Command) (redirections : List Redirection)
  | group (c : Command) (redirections : List Redirection)
  | conditional (test yes no : Command)
  /-- Repeats the body as long as the test comes out as it should. -/
  | loop (wanted : Bool) (test body : Command)
  | each (name : Octets) (words : List (List Piece)) (body : Command)
  | choice (subject : List Piece) (cases : List (List (List Piece) × Command))
  | function (name : Octets) (body : Command)

end

/-- A word of the language. -/
abbrev Word := List Piece

instance : Inhabited Command := ⟨.nothing⟩

/-- The text of a word in which nothing has to be worked out. -/
def plainText? : Word → Option Octets
  | [] => some []
  | .char c _ :: rest => (plainText? rest).map (c :: ·)
  | .quotes :: rest => plainText? rest
  | _ => none

/-- Whether a part of a word stands in quotes. -/
def isQuoted (word : Word) : Bool :=
  word.any fun
    | .char _ quoted => quoted
    | .quotes => true
    | _ => false

def isNameStart (c : Char) : Bool := c.isAlpha || c = '_'

def isNamePart (c : Char) : Bool := c.isAlphanum || c = '_'

/-- Whether a text can name a variable. -/
def isName (text : Octets) : Bool := text.head?.any isNameStart && text.all isNamePart

/-- The commands that the shell has of its own and that change the shell itself; an error in one of
them ends it. -/
def specialNames : List String :=
  [":", ".", "break", "continue", "eval", "exec", "exit", "export", "readonly", "return", "set",
    "shift", "times", "trap", "unset"]

end ConnectorSchema.Filter.Shell
