import ConnectorSchema.Filter.Search
import ConnectorSchema.Filter.Shell.Script

/-!
A running shell: what belongs to it alone and ends with it, and what it shares with the shells that it
starts. Streams lead to channels, which hold texts that wait to be read or that have been written.
-/

namespace ConnectorSchema.Filter.Shell

/-- Where a stream leads. -/
inductive Stream where
  | source (channel : Nat)
  | sink (channel : Nat)
  /-- The end of a file. -/
  | file (place : List String)
  /-- Where nothing comes from and everything vanishes. -/
  | nowhere
deriving DecidableEq

structure Variable where
  value? : Option Octets
  exported : Bool
  readOnly : Bool

/-- What is going on. -/
inductive Flow where
  | onward
  /-- So many loops are to be left. -/
  | breaking (loops : Nat)
  /-- So many loops are to be left, and the last of them goes on. -/
  | continuing (loops : Nat)
  | returning
  /-- The shell ends with its last status. -/
  | ending
  /-- The shell has been ended by a signal. -/
  | killed (signal : Nat)
deriving DecidableEq

structure Session where
  bindings : List (Octets × Variable)
  functions : List (Octets × Command)
  name : Octets
  parameters : List Octets
  streams : List (Nat × Stream)
  options : List Char
  /-- What is done at a signal, or at the end. -/
  traps : List (String × Octets)
  /-- The variables that come back when the functions at work end. -/
  saved : List (List (Octets × Option Variable))
  loops : Nat
  status : Nat
  /-- The status of the last commands whose output came into the command at work. -/
  substituted : Nat
  flow : Flow
  line : Nat
  /-- The name of the builtin command at work. -/
  command : Option Octets
  documents : List (Nat × Word)
  channels : List (Nat × Octets)
  nextChannel : Nat
  files : FileSystem
  programs : Installed

/-- The number of the shell as a process, as `$$` gives it. -/
def ownNumber : Octets := "4711".toList

namespace Session

/-! ### Channels and streams -/

/-- What a channel holds. What has been written to it is kept in reverse. -/
def channel (s : Session) (n : Nat) : Octets := (s.channels.lookup n).getD []

def setChannel (s : Session) (n : Nat) (text : Octets) : Session :=
  { s with channels := s.channels.map fun c => if c.1 = n then (n, text) else c }

/-- A new channel with a text. -/
def openChannel (s : Session) (text : Octets) : Nat × Session :=
  (s.nextChannel,
    { s with channels := (s.nextChannel, text) :: s.channels, nextChannel := s.nextChannel + 1 })

def closeChannel (s : Session) (n : Nat) : Session :=
  { s with channels := s.channels.filter (·.1 ≠ n) }

def stream? (s : Session) (n : Nat) : Option Stream := s.streams.lookup n

def setStream (s : Session) (n : Nat) (stream? : Option Stream) : Session :=
  { s with
    streams := stream?.toList.map (fun stream => (n, stream)) ++ s.streams.filter (·.1 ≠ n) }

/-- Adds bytes to a file. -/
def appendTo (s : Session) (place : List String) (text : Octets) : Session :=
  let old :=
    match s.files.root.get? place with
    | some (.file bytes) => bytes
    | _ => []
  { s with files := s.files.put place (some (.file (old ++ Octets.toBytes text))) }

/-- Writes to a stream. Where it does not lead anywhere that can be written to, nothing happens. -/
def write (s : Session) (n : Nat) (text : Octets) : Session :=
  match s.stream? n with
  | some (.sink channel) => s.setChannel channel (text.reverse ++ s.channel channel)
  | some (.file place) => if text.isEmpty then s else s.appendTo place text
  | _ => s

/-- Whether a stream can be written to. -/
def canWrite (s : Session) (n : Nat) : Bool :=
  match s.stream? n with
  | some (.source _) | none => false
  | some _ => true

/-- What can be read from a stream. -/
def unread? (s : Session) (n : Nat) : Option Octets :=
  match s.stream? n with
  | some (.source channel) => some (s.channel channel)
  | some .nowhere => some []
  | _ => none

/-- Leaves some of what can be read from a stream. -/
def leave (s : Session) (n : Nat) (text : Octets) : Session :=
  match s.stream? n with
  | some (.source channel) => s.setChannel channel text
  | _ => s

/-! ### Complaints -/

/-- Says what is wrong, with the place in the script. -/
def complain (s : Session) (message : Octets) : Session :=
  let command := (s.command.map fun name => name ++ ": ".toList).getD []
  s.write 2 (s.name ++ ": ".toList ++ Octets.ofNat s.line ++ ": ".toList ++ command ++ message
    ++ ['\n'])

/-- An error that ends the shell. -/
def abort (s : Session) (message : Octets) : Session :=
  { s.complain message with status := 2, flow := .ending }

/-! ### Variables -/

def variableNamed (s : Session) (name : Octets) : Variable :=
  (s.bindings.lookup name).getD ⟨none, false, false⟩

def setVariable (s : Session) (name : Octets) (v : Variable) : Session :=
  { s with bindings := (name, v) :: s.bindings.filter (·.1 ≠ name) }

/-- Gives a variable a value, which is an error if it must not change. -/
def assign (s : Session) (name value : Octets) : Session :=
  let v := s.variableNamed name
  if v.readOnly then { s with command := none }.abort (name ++ ": is read only".toList)
  else s.setVariable name { v with value? := some value, exported := v.exported || s.options.contains 'a' }

/-- The value of a variable or of a numbered or special parameter, if it is set. -/
def value? (s : Session) (name : Octets) : Option Octets :=
  match name with
  | ['#'] => some (Octets.ofNat s.parameters.length)
  | ['?'] => some (Octets.ofNat s.status)
  | ['$'] => some ownNumber
  | ['!'] => none
  | ['-'] => some s.options
  | ['0'] => some s.name
  | name =>
    if name.head?.any Char.isDigit then
      match Octets.number name with
      | 0 => some s.name
      | n + 1 => s.parameters[n]?
    else (s.variableNamed name).value?

/-- The bytes that end fields. -/
def separators (s : Session) : Octets := (s.value? "IFS".toList).getD [' ', '\t', '\n']

/-- The variables that programs get to know. -/
def environment (s : Session) : List (Octets × Octets) :=
  s.bindings.filterMap fun (name, v) =>
    if v.exported then v.value?.map fun value => (name, value) else none

def searchPath (s : Session) : String :=
  match s.value? "PATH".toList with
  | some path => path.toText
  | none => ""

/-! ### Shells within the shell -/

/-- Runs something in a shell of its own. What it writes and reads stays; what it changes in itself
does not. A signal to the shell ends both. -/
def inSubshell (s : Session) (go : Session → Session) : Session :=
  let inner := go { s with traps := s.traps.filter (·.2.isEmpty), loops := 0 }
  { s with
    status := inner.status
    flow :=
      match inner.flow with
      | .killed n => .killed n
      | _ => s.flow
    channels := inner.channels, nextChannel := inner.nextChannel, documents := inner.documents
    files := { inner.files with here := s.files.here } }

/-- Runs something with other streams. -/
def withStreams (s : Session) (go : Session → Session) : Session :=
  { go s with streams := s.streams }

/-- Runs something in a shell of its own, with a text as its input or its output in a channel. Gives
what it left of its input and what it wrote. -/
def piped (s : Session) (input? : Option Octets) (collects : Bool) (go : Session → Session) :
    Octets × Octets × Session :=
  let (input, s) := s.openChannel (input?.getD [])
  let (output, s) := s.openChannel []
  let after := s.inSubshell fun s =>
    let s := if input?.isSome then s.setStream 0 (some (.source input)) else s
    go (if collects then s.setStream 1 (some (.sink output)) else s)
  (after.channel input, (after.channel output).reverse,
    (after.closeChannel input).closeChannel output)

def isOnward (s : Session) : Bool := s.flow == .onward

end Session

end ConnectorSchema.Filter.Shell
