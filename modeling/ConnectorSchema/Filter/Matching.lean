import ConnectorSchema.Filter.Choice
import ConnectorSchema.Filter.Outcome
import ConnectorSchema.Filter.Pattern.Course
import ConnectorSchema.Filter.Pattern.Reader

/-!
The program `grep`: it picks the lines in which a pattern occurs.
-/

namespace ConnectorSchema.Filter.Matching

def choiceNames : ChoiceNames where
  flags := ['E', 'F', 'G', 'c', 'h', 'i', 'n', 'o', 'q', 's', 'v', 'w', 'x', 'y']
  valued := ['e']
  attached := []
  long := [("extended-regexp", 'E'), ("fixed-strings", 'F'), ("basic-regexp", 'G'), ("count", 'c'),
    ("ignore-case", 'i'), ("line-number", 'n'), ("only-matching", 'o'), ("quiet", 'q'),
    ("silent", 'q'), ("invert-match", 'v'), ("word-regexp", 'w'), ("line-regexp", 'x'),
    ("regexp", 'e')]

/-- The pattern that is looked for. -/
def patternOf (has : Char → Bool) (text : Octets) : Except String Pattern := do
  let manner : Pattern.Manner :=
    { extended := has 'E', anyCase := has 'i' || has 'y', byLine := false }
  let one (text : Octets) : Except String Pattern :=
    if has 'F' then
      .ok (text.foldr (fun c p => (Pattern.one (manner.testOf c)).andThen p) .empty)
    else
      match Pattern.read manner text with
      | .ok whole => .ok whole.pattern
      | .error fault => .error fault.message
  let parts ← (Octets.splitAt '\n' text).mapM one
  let p := parts.tail.foldl .either (parts.headD .empty)
  if has 'x' then
    return (Pattern.edge .textStart).andThen (p.andThen (.edge .textEnd))
  else if has 'w' then
    return (Pattern.edge .wordStart).andThen (p.andThen (.edge .wordEnd))
  else return p

/-- The places in a line at which a pattern holds, as texts. The first argument bounds the number of
steps. -/
def occurrences (p : Pattern) : Nat → (before : Option Char) → Octets → List Octets
  | 0, _, _ => []
  | steps + 1, before, text =>
    match p.search? 0 before text with
    | none => []
    | some (start, course) =>
      let rest := course.rest
      let found := (text.drop start).take (text.length - start - rest.length)
      match found, rest with
      | [], [] => []
      | [], c :: rest => occurrences p steps (some c) rest
      | found, rest => found :: occurrences p steps found.getLast? rest

/-- What is written for the lines of a text, and how many of them count. -/
def pick (has : Char → Bool) (p : Pattern) (text : Octets) : Octets × Nat :=
  let lines := linesOf '\n' text
  let numbered := lines.zipIdx.map fun (line, i) => (i + 1, line)
  let found := numbered.filter fun (_, line) => p.occursIn line.text ≠ has 'v'
  let label (n : Nat) : Octets := if has 'n' then Octets.ofNat n ++ [':'] else []
  let shown :=
    if has 'q' then []
    else if has 'c' then Octets.ofNat found.length ++ ['\n']
    else if has 'o' then
      if has 'v' then []
      else
        found.flatMap fun (n, line) =>
          (occurrences p (line.text.length + 1) none line.text).flatMap fun part =>
            label n ++ part ++ ['\n']
    else found.flatMap fun (n, line) => label n ++ line.text ++ ['\n']
  (shown, found.length)

def usage (t : Task) : Octets :=
  "Usage: ".toList ++ t.name ++ " [OPTION]... PATTERNS [FILE]...\nTry '".toList ++ t.name
    ++ " --help' for more information.\n".toList

def grep : Program := fun t =>
  match choiceNames.read t.arguments with
  | .error message => t.refuses 2 (t.remark message ++ usage t)
  | .ok (choices, operands) =>
    let (pattern?, files) : Option Octets × List Octets :=
      match valueOf? choices 'e', operands with
      | some pattern, files => (some pattern, files)
      | none, pattern :: files => (some pattern, files)
      | none, [] => (none, [])
    match pattern? with
    | none => t.refuses 2 (usage t)
    | some text =>
      let has := chosen choices
      match patternOf has text with
      | .error message => t.refuses 2 (t.remark message)
      | .ok p =>
        let s := t.sources (fun name e => name.toText ++ ": " ++ e.words) files
        let results := s.texts.map fun named => (named.1, pick has p named.2)
        let shown := results.flatMap fun (name, text, _) =>
          if files.length ≤ 1 || has 'h' then text
          else (linesOf '\n' text).flatMap fun line => name ++ ':' :: line.text ++ ['\n']
        let matched := results.any fun (_, _, n) => n ≠ 0
        let outcome := t.endsAfter s 2 shown
        { outcome with
          status :=
            if !s.complaints.isEmpty && !(has 'q' && matched) then .code 2
            else if matched then .code 0
            else .code 1 }

end ConnectorSchema.Filter.Matching
