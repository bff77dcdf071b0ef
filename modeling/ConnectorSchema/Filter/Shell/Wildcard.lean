import ConnectorSchema.Filter.Pattern.Course
import ConnectorSchema.Filter.Shell.Session

/-!
Wildcards: signs in words that stand for other bytes unless they are quoted, and the names of files
that they match.
-/

namespace ConnectorSchema.Filter.Shell

/-- A byte of a word that has been worked out, and whether it stands for itself alone. -/
structure Glyph where
  byte : Char
  quoted : Bool

def bytesIn (glyphs : List Glyph) : Octets := glyphs.map (·.byte)

def isWildcard (g : Glyph) : Bool := !g.quoted && (g.byte = '*' || g.byte = '?' || g.byte = '[')

/-- The spans in brackets up to their end, and what follows. The first argument bounds the number of
steps. -/
def takeSet : Nat → (first : Bool) → List Glyph → Option (List Span × List Glyph)
  | 0, _, _ => none
  | _, _, [] => none
  | steps + 1, first, g :: rest =>
    if g.byte = ']' && !g.quoted && !first then some ([], rest)
    else
      let more (spans : List Span) (rest : List Glyph) : Option (List Span × List Glyph) :=
        (takeSet steps false rest).map fun found => (spans ++ found.1, found.2)
      match g, rest with
      | ⟨'[', false⟩, ⟨':', false⟩ :: after =>
        let name := after.takeWhile fun g => g.byte.isAlpha
        match after.drop name.length with
        | ⟨':', _⟩ :: ⟨']', _⟩ :: behind =>
          match Span.named? (String.ofList (bytesIn name)) with
          | some spans => more spans behind
          | none => more [.single '['] rest
        | _ => more [.single '['] rest
      | g, ⟨'-', false⟩ :: last :: after =>
        if last.byte = ']' && !last.quoted then more [.single g.byte] rest
        else more [⟨g.byte, last.byte⟩] after
      | g, rest => more [.single g.byte] rest

/-- The pattern that a word means. The first argument bounds the number of steps. -/
def wildcardSteps : Nat → List Glyph → Pattern
  | 0, _ => .empty
  | _, [] => .empty
  | steps + 1, g :: rest =>
    let one (test : ByteTest) (rest : List Glyph) : Pattern :=
      (Pattern.one test).andThen (wildcardSteps steps rest)
    match g with
    | ⟨'*', false⟩ => (Pattern.many (.one ⟨[], true⟩)).andThen (wildcardSteps steps rest)
    | ⟨'?', false⟩ => one ⟨[], true⟩ rest
    | ⟨'[', false⟩ =>
      let (negated, inside) :=
        match rest with
        | ⟨'!', false⟩ :: inside => (true, inside)
        | ⟨'^', false⟩ :: inside => (true, inside)
        | inside => (false, inside)
      match takeSet (inside.length + 1) true inside with
      | some (spans, rest) => one ⟨spans, negated⟩ rest
      | none => one (.single '[') rest
    | g => one (.single g.byte) rest

def wildcard (glyphs : List Glyph) : Pattern := wildcardSteps glyphs.length glyphs

/-- Whether a word matches a whole text. -/
def wildcardMatches (glyphs : List Glyph) (text : Octets) : Bool :=
  ((wildcard glyphs).courseOf? none text text.length).isSome

/-- A value without the part at one of its ends that a word matches, the shortest or the longest. -/
def trimmed (fromEnd longest : Bool) (glyphs : List Glyph) (value : Octets) : Octets :=
  let lengths := List.range (value.length + 1)
  let lengths := if longest then lengths.reverse else lengths
  let part (n : Nat) : Octets := if fromEnd then value.drop (value.length - n) else value.take n
  match lengths.find? fun n => wildcardMatches glyphs (part n) with
  | none => value
  | some n => if fromEnd then value.take (value.length - n) else value.drop n

/-- The parts of a word between slashes. -/
def pathParts (glyphs : List Glyph) : List (List Glyph) :=
  glyphs.foldr
    (fun g parts =>
      match parts with
      | [] => if g.byte = '/' then [[], []] else [[g]]
      | part :: others => if g.byte = '/' then [] :: part :: others else (g :: part) :: others)
    [[]]

/-- The names in a directory. -/
def namesIn (fs : FileSystem) (dir : String) : List Octets :=
  match fs.node? (if dir = "" then "." else dir) with
  | some (.dir entries) => entries.map fun e => Octets.ofString e.1
  | _ => []

/-- The paths that parts match, within a directory that is written as `base`. -/
def matchingPaths (fs : FileSystem) : (base : Octets) → List (List Glyph) → List Octets
  | base, [] => [base]
  | base, part :: rest =>
    let goOn (name : Octets) : List Octets :=
      let path := base ++ name
      if rest.isEmpty then if (fs.node? path.toText).isSome then [path] else []
      else matchingPaths fs (path ++ ['/']) rest
    if part.any isWildcard then
      let hidden := part.head?.any (·.byte = '.')
      ((namesIn fs base.toText).filter fun name =>
        (name.head? ≠ some '.' || hidden) && wildcardMatches part name).flatMap goOn
    else goOn (bytesIn part)

/-- The files that a word means, or the word itself if there are none. -/
def filesFor (fs : FileSystem) (glyphs : List Glyph) : List Octets :=
  if !glyphs.any isWildcard then [bytesIn glyphs]
  else
    match matchingPaths fs [] (pathParts glyphs) with
    | [] => [bytesIn glyphs]
    | paths => paths

end ConnectorSchema.Filter.Shell
