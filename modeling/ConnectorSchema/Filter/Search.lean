import ConnectorSchema.Filter.Outcome

/-!
Looking for programs by name. A name with a slash is a path; any other name is looked for in the
directories of a search path. Files of the tree are no programs.
-/

namespace ConnectorSchema.Filter

/-- Programs by their names. -/
abbrev Installed := List (String × Program)

/-- The directories that programs are looked for in, unless others are named. -/
def standardSearch : String := "/usr/local/sbin:/usr/local/bin:/usr/sbin:/usr/bin:/sbin:/bin"

namespace Installed

/-- The program that a path in the system's own directories names. -/
def atPath? (programs : Installed) (path : String) : Option Program :=
  match ((Path.components path).filter (· ≠ "")).reverse with
  | [name, "bin"] => if Path.isAbsolute path then programs.lookup name else none
  | [name, "bin", "usr"] => if Path.isAbsolute path then programs.lookup name else none
  | _ => none

/-- The program at a path, or why there is none. -/
def open? (programs : Installed) (fs : FileSystem) (path : String) : Except FileError Program :=
  match programs.atPath? path with
  | some program => .ok program
  | none =>
    match fs.locate .followed path with
    | .error error => .error error
    | .ok location =>
      match location.node? with
      | none => .error .notFound
      | some _ => .error .permissionDenied

/-- Looks for a program in directories. One that may not be started is passed over, but remembered. -/
def searchIn (programs : Installed) (fs : FileSystem) (name : String) :
    (denied : Bool) → List String → Except FileError Program
  | denied, [] => .error (if denied then .permissionDenied else .notFound)
  | denied, dir :: rest =>
    match programs.open? fs (Path.join dir name) with
    | .ok program => .ok program
    | .error .permissionDenied => searchIn programs fs name true rest
    | .error .notFound | .error .notDirectory => searchIn programs fs name denied rest
    | .error error => .error error

/-- The program with a name, or why it cannot be started. -/
def find (programs : Installed) (fs : FileSystem) (search name : String) :
    Except FileError Program :=
  if name = "" then .error .notFound
  else if name.toList.contains '/' then programs.open? fs name
  else if FileSystem.maxNameBytes < name.utf8ByteSize then .error .nameTooLong
  else programs.searchIn fs name false (search.splitOn ":")

end Installed

end ConnectorSchema.Filter
