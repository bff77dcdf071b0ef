/-!
A failure as it is told at the end: what failed, and below it the causes.
-/

namespace ConnectorSchema.CommandLine

/-- A message whose lines after the first are moved to the right. -/
def indented (margin message : String) : String :=
  String.ofList (message.toList.flatMap fun c => if c = '\n' then c :: margin.toList else [c])

/-- One cause in a list of several. -/
def numberedCause (cause : Nat × String) : String :=
  let number := toString cause.1
  "".pushn ' ' (5 - number.length) ++ number ++ ": " ++ indented "       " cause.2

/-- A failure with the causes behind it. They are numbered if there are several. -/
def complaint (failure : String) (causes : List String) : String :=
  let lines :=
    match causes with
    | [] => []
    | [cause] => ["", "Caused by:", "    " ++ indented "    " cause]
    | causes => ["", "Caused by:"] ++ ((List.range causes.length).zip causes).map numberedCause
  String.join ((("Error: " ++ failure) :: lines).map (· ++ "\n"))

end ConnectorSchema.CommandLine
