import ConnectorSchema.Filter.Pattern.Course
import ConnectorSchema.Filter.Pattern.Reader

/-!
Scripts of the stream editor: commands, each with the lines that it is for. Blocks and labels are
commands of their own, so that a script is a plain list.
-/

namespace ConnectorSchema.Filter.StreamEdit

/-- A pattern that lines are searched for, or the one that was used last. -/
abbrev Sought := Option Pattern.Whole

/-- Lines that a command is for. -/
inductive Address where
  | line (n : Nat)
  /-- Every so many lines from a first one on. -/
  | every (first step : Nat)
  | last
  | matching (sought : Sought)

/-- Where a range of lines ends. -/
inductive Bound where
  | line (n : Nat)
  | last
  | matching (sought : Sought)
  /-- So many lines after the first. -/
  | further (n : Nat)
  /-- At a line whose number a number divides. -/
  | multiple (n : Nat)

structure Selection where
  first? : Option Address
  last? : Option Bound
  negated : Bool

/-- What is done to the letters that are put in. -/
inductive Casing where
  | upper
  | lower
  | unchanged
deriving DecidableEq

/-- A part of what is put in for a match. -/
inductive Filling where
  | text (t : Octets)
  /-- The text of a group; the whole match is the group with the number zero. -/
  | group (n : Nat)
  /-- How letters are changed from here on. -/
  | casing (c : Casing)
  /-- How the next letter alone is changed. -/
  | nextCasing (c : Casing)

structure Substitution where
  sought : Sought
  filling : List Filling
  /-- The number of the first match that is replaced. -/
  which : Nat
  every : Bool
  prints : Bool
  file? : Option Octets

inductive Action where
  | blockStart
  | blockEnd
  | label (name : Octets)
  | substitute (s : Substitution)
  /-- Replaces bytes by those at the same places in another list. -/
  | replaceBytes (old new : Octets)
  | append (text : Octets)
  | insert (text : Octets)
  | change (text : Octets)
  | delete
  | deleteFirst
  | print
  | printFirst
  | next
  | nextAppended
  | keep
  | keepAppended
  | recall
  | recallAppended
  | exchange
  | clear
  | number
  | fileName
  /-- Shows the line so that no byte is in doubt, in pieces of some width. -/
  | list (width? : Option Nat)
  | quit (status : Nat) (prints : Bool)
  /-- Goes on at a label, or at the end of the script if there is none. -/
  | jump (name : Octets)
  | jumpIfReplaced (name : Octets)
  | jumpUnlessReplaced (name : Octets)
  | readFile (name : Octets)
  | readLine (name : Octets)
  | writeFile (name : Octets)
  | writeFirst (name : Octets)
  | nothing

structure Command where
  selection : Selection
  action : Action
  /-- Where the command stands in its script. -/
  place : Nat

/-- Whether there is a command with a label. -/
def hasLabel (name : Octets) (commands : List Command) : Bool :=
  commands.any fun c =>
    match c.action with
    | .label n => n = name
    | _ => false

/-- The commands after a label. -/
def afterLabel (name : Octets) (commands : List Command) : List Command :=
  if name.isEmpty then []
  else
    commands.dropWhile fun c =>
      match c.action with
      | .label n => n ≠ name
      | _ => true

/-- The commands after the end of a block that has begun, with so many blocks within it open. -/
def afterBlock : Nat → List Command → List Command
  | _, [] => []
  | depth, c :: rest =>
    match c.action, depth with
    | .blockStart, _ => afterBlock (depth + 1) rest
    | .blockEnd, 0 => rest
    | .blockEnd, depth + 1 => afterBlock depth rest
    | _, _ => afterBlock depth rest

end ConnectorSchema.Filter.StreamEdit
