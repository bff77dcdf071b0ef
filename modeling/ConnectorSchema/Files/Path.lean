import ConnectorSchema.Schema.Kind

/-!
Paths as texts, and the paths that a connector's files have.
-/

namespace ConnectorSchema.Path

/-- The parts of a path between slashes, empty ones included. -/
def parts : List Char → List (List Char)
  | [] => [[]]
  | c :: rest =>
    if c = '/' then [] :: parts rest
    else
      match parts rest with
      | [] => [[c]]
      | part :: others => (c :: part) :: others

def components (path : String) : List String := (parts path.toList).map String.ofList

/-- `name` within the directory `dir`. The empty directory adds nothing. -/
def join (dir name : String) : String :=
  if dir = "" then name
  else if dir.toList.getLast? = some '/' then dir ++ name
  else dir ++ "/" ++ name

/-- Whether a path begins at the root. -/
def isAbsolute (path : String) : Bool := path.toList.head? == some '/'

/-- The ending of generated files. -/
def outputExtension : String := "go"

/-- The directory of generated files unless another one is named. -/
def defaultOutput : String := "generated"

/-- The generated file of a connector. -/
def output (dir : String) (kind : EntityKind) (code : String) : String :=
  join dir (kind.name ++ "_" ++ code ++ "." ++ outputExtension)

/-- The file that keeps the text which a formatter rejected. -/
def draft (path : String) : String := path ++ ".unformatted"

/-- The directory with the plugins of a kind. -/
def plugins (backend : String) (kind : EntityKind) : String :=
  join (join (join backend "app") kind.plural) "plugins"

/-- The name of a plugin's current document. -/
def documentName : String := "configuration.latest.json"

end ConnectorSchema.Path
