import ConnectorSchema.Text.LetterTables

/-!
Upper and lower case of any character. ASCII letters are answered without a table, and
`isUpper_ascii` and its companions say so; the rest is looked up. A character may have a case of
several characters (`ß` becomes `SS`), so the mappings give lists.
-/

namespace ConnectorSchema.Text

def isAscii (c : Char) : Bool := c.toNat < 128

def isUpper (c : Char) : Bool :=
  if isAscii c then c.isUpper else inRuns uppercaseRuns c

def isLower (c : Char) : Bool :=
  if isAscii c then c.isLower else inRuns lowercaseRuns c

def isCased (c : Char) : Bool := inRuns casedRuns c

/-- A test for the end of a word steps over these. -/
def isCaseIgnorable (c : Char) : Bool := inRuns caseIgnorableRuns c

/-- The lower case of one character, without regard to its neighbours. -/
def lower (c : Char) : List Char :=
  if isAscii c then [c.toLower]
  else if c = 'İ' then ['i', '\u0307']
  else [(shifted? lowerShifts c).getD c]

/-- The full upper case of one character. -/
def upper (c : Char) : List Char :=
  if isAscii c then [c.toUpper]
  else match upperExpansions.lookup c.toNat with
    | some codes => codes.map Char.ofNat
    | none => [(shifted? upperShifts c).getD c]

/-- Whether the first character that is not ignorable is a letter with case. -/
def meetsCased (cs : List Char) : Bool :=
  (cs.dropWhile isCaseIgnorable).head?.any isCased

/-- The lower case of a text whose preceding characters, nearest first, are `before`. A capital
sigma that ends a word has its own small form. -/
def lowerAfter (before : List Char) : List Char → List Char
  | [] => []
  | c :: rest =>
    (if c = 'Σ' then [if meetsCased before && !meetsCased rest then 'ς' else 'σ'] else lower c)
      ++ lowerAfter (c :: before) rest

/-- The lower case of a text. -/
def lowerAll (cs : List Char) : List Char := lowerAfter [] cs

/-- The upper case of a text. -/
def upperAll (cs : List Char) : List Char := cs.flatMap upper

theorem isUpper_ascii {c : Char} (ascii : c.toNat < 128) : isUpper c = c.isUpper := by
  simp [isUpper, isAscii, ascii]

theorem isLower_ascii {c : Char} (ascii : c.toNat < 128) : isLower c = c.isLower := by
  simp [isLower, isAscii, ascii]

theorem lower_ascii {c : Char} (ascii : c.toNat < 128) : lower c = [c.toLower] := by
  simp [lower, isAscii, ascii]

theorem upper_ascii {c : Char} (ascii : c.toNat < 128) : upper c = [c.toUpper] := by
  simp [upper, isAscii, ascii]

end ConnectorSchema.Text
