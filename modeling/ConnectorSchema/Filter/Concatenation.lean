import ConnectorSchema.Filter.Choice
import ConnectorSchema.Filter.Outcome

/-!
The program `cat`: it puts texts one after another, and can number their lines and make their bytes
visible.
-/

namespace ConnectorSchema.Filter.Concatenation

structure Options where
  numbered : Bool
  /-- Only lines with something in them get a number. -/
  numberedFull : Bool
  /-- Of several empty lines only one is kept. -/
  squeezed : Bool
  endsShown : Bool
  tabsShown : Bool
  restShown : Bool

def choiceNames : ChoiceNames where
  flags := ['A', 'b', 'e', 'E', 'n', 's', 't', 'T', 'u', 'v']
  valued := []
  attached := []
  long := [("show-all", 'A'), ("number-nonblank", 'b'), ("show-ends", 'E'), ("number", 'n'),
    ("squeeze-blank", 's'), ("show-tabs", 'T'), ("show-nonprinting", 'v')]

def Options.ofChoices (choices : List Choice) : Options :=
  let has (letters : List Char) : Bool := letters.any (chosen choices)
  ⟨has ['n'], has ['b'], has ['s'], has ['A', 'e', 'E'], has ['A', 't', 'T'], has ['A', 'e', 't', 'v']⟩

/-- A byte of the lower half made visible. -/
def showLow (c : Char) : Octets :=
  if c.toNat < 32 then ['^', Char.ofNat (c.toNat + 64)]
  else if c.toNat = 127 then ['^', '?']
  else [c]

def Options.showByte (o : Options) (c : Char) : Octets :=
  if c = '\t' then if o.tabsShown then ['^', 'I'] else [c]
  else if !o.restShown then [c]
  else if c.toNat < 128 then showLow c
  else 'M' :: '-' :: showLow (Char.ofNat (c.toNat - 128))

/-- A number in front of a line. -/
def label (n : Nat) : Octets :=
  let digits := Octets.ofNat n
  List.replicate (6 - digits.length) ' ' ++ digits ++ ['\t']

/-- The text of a line. When ends are shown, a carriage return in front of one is shown too. -/
def Options.showLine (o : Options) (line : Line) : Octets :=
  let text := line.text.flatMap o.showByte
  if !line.ended then text
  else if !o.endsShown then text ++ ['\n']
  else if line.text.getLast? = some '\r' && !o.restShown then text.dropLast ++ "^M$\n".toList
  else text ++ "$\n".toList

/-- Leaves one of several empty lines. -/
def squeeze : List Line → List Line
  | a :: b :: rest =>
    if a.text.isEmpty && b.text.isEmpty && b.ended then squeeze (b :: rest)
    else a :: squeeze (b :: rest)
  | lines => lines

/-- Lines with their numbers. -/
def Options.number (o : Options) (lines : List Line) : Octets :=
  let step (state : Nat × List Octets) (line : Line) : Nat × List Octets :=
    if o.numberedFull && line.text.isEmpty || !(o.numbered || o.numberedFull) then
      (state.1, o.showLine line :: state.2)
    else (state.1 + 1, (label state.1 ++ o.showLine line) :: state.2)
  (lines.foldl step (1, [])).2.reverse.flatten

def Options.show (o : Options) (text : Octets) : Octets :=
  if !(o.numbered || o.numberedFull || o.squeezed || o.endsShown || o.tabsShown || o.restShown) then
    text
  else
    let lines := linesOf '\n' text
    o.number (if o.squeezed then squeeze lines else lines)

def program : Program := fun t =>
  match choiceNames.read t.arguments with
  | .error message => t.refuses 1 (misused t.name message)
  | .ok (choices, names) =>
    let s := t.sources (fun name e => name.toText ++ ": " ++ e.words) names
    let outcome := t.endsAfter s 1 ((Options.ofChoices choices).show (s.texts.flatMap (·.2)))
    if t.input.isNone && (names.isEmpty || names.contains ['-']) then
      { outcome with
        err := outcome.err ++ t.remark "closing standard input: Bad file descriptor" }
    else outcome

end ConnectorSchema.Filter.Concatenation
