import ConnectorSchema.Files.Path
import ConnectorSchema.Files.Tree
import ConnectorSchema.Text.Utf8

/-!
A file system: a tree and the directory from which relative paths start. Paths are followed through
symbolic links to a place in the tree; each operation fails with the first error on its way. Where
there is no link, the place of a path is given by its names alone.
-/

namespace ConnectorSchema

structure FileSystem where
  root : Tree
  /-- The place of the working directory. -/
  here : List String

namespace FileSystem

/-- A place, and what is there. -/
structure Location where
  place : List String
  node? : Option Tree

/-- How far a path can be followed without going through a link. -/
inductive Walk where
  | arrived (location : Location)
  | failed (error : FileError)
  /-- The path goes on at another place with these names. -/
  | redirected (place names : List String)

/-- What is meant by a path whose last name is that of a link. -/
inductive LastName where
  /-- What the link leads to. -/
  | followed
  /-- The link itself. -/
  | kept
  /-- A file to be written where the link leads. Its name, which may come from the link, must not have
  a slash behind it. -/
  | written
deriving DecidableEq, Repr

def maxNameBytes : Nat := 255

def maxPathBytes : Nat := 4095

def maxLinks : Nat := 40

/-- Whether nothing but slashes follows a name, and one at least. -/
def onlySlashesFollow (rest : List String) : Bool := !rest.isEmpty && rest.all (· = "")

/-- Follows names from a place. -/
def walk (root : Tree) (last : LastName) : (place names : List String) → Walk
  | place, [] => .arrived ⟨place, root.get? place⟩
  | place, name :: rest =>
    if name = "" ∨ name = "." then walk root last place rest
    else if name = ".." then walk root last place.dropLast rest
    else if last = .written && onlySlashesFollow rest then .failed .isDirectory
    else if maxNameBytes < name.utf8ByteSize then .failed .nameTooLong
    else
      let next := place ++ [name]
      match root.get? next with
      | none => if rest.isEmpty then .arrived ⟨next, none⟩ else .failed .notFound
      | some (.dir _) => walk root last next rest
      | some (.file bytes) =>
        if rest.isEmpty then .arrived ⟨next, some (.file bytes)⟩ else .failed .notDirectory
      | some (.link target) =>
        if rest.isEmpty && last = .kept then .arrived ⟨next, some (.link target)⟩
        else
          .redirected (if Path.isAbsolute target then [] else place)
            (Path.components target ++ rest)

/-- Follows names through at most `links` links. -/
def follow (root : Tree) (last : LastName) :
    (links : Nat) → (place names : List String) → Except FileError Location
  | links, place, names =>
    match walk root last place names with
    | .arrived location => .ok location
    | .failed error => .error error
    | .redirected place names =>
      match links with
      | 0 => .error .tooManyLinks
      | links + 1 => follow root last links place names

/-- Finds the place that `names` lead to from the start of a path. -/
def locateNames (fs : FileSystem) (last : LastName) (absolute : Bool) (names : List String) :
    Except FileError Location :=
  follow fs.root last maxLinks (if absolute then [] else fs.here) names

/-- Finds the place of a path. -/
def locate (fs : FileSystem) (last : LastName) (path : String) : Except FileError Location :=
  if path = "" then .error .notFound
  else if '\x00' ∈ path.toList then .error .nulInName
  else if maxPathBytes < path.utf8ByteSize then .error .nameTooLong
  else fs.locateNames last (Path.isAbsolute path) (Path.components path)

/-- What is at a path, links followed. -/
def node? (fs : FileSystem) (path : String) : Option Tree :=
  match fs.locate .followed path with
  | .ok location => location.node?
  | .error _ => none

def isDir (fs : FileSystem) (path : String) : Bool := (fs.node? path).any Tree.isDir

/-- The bytes of a file. -/
def readBytes (fs : FileSystem) (path : String) : Except FileError (List UInt8) := do
  match (← fs.locate .followed path).node? with
  | some (.file bytes) => .ok bytes
  | some (.dir _) => .error .isDirectory
  | some (.link _) => .error .tooManyLinks
  | none => .error .notFound

/-- The text of a file. -/
def readText (fs : FileSystem) (path : String) : Except FileError String := do
  match Text.Utf8.decode (← fs.readBytes path) with
  | .ok text => .ok text
  | .error _ => .error .notText

/-- Puts something at a place, or takes away what is there. -/
def put (fs : FileSystem) (place : List String) (new : Option Tree) : FileSystem :=
  { fs with root := Tree.update new fs.root place }

/-- Writes a file, a new one or over an old one. -/
def write (fs : FileSystem) (path : String) (bytes : List UInt8) : Except FileError FileSystem := do
  let location ← fs.locate .written path
  match location.node? with
  | some (.dir _) => .error .isDirectory
  | _ => .ok (fs.put location.place (some (.file bytes)))

/-- Removes a file or a link. -/
def remove (fs : FileSystem) (path : String) : Except FileError FileSystem := do
  let location ← fs.locate .kept path
  match location.node? with
  | none => .error .notFound
  | some (.dir _) => .error .isDirectory
  | some _ => .ok (fs.put location.place none)

/-- `names` without empty names at the end. -/
def trimNames (names : List String) : List String :=
  (names.reverse.dropWhile (· = "")).reverse

/-- Makes the directory that `names` lead to. -/
def makeDir (fs : FileSystem) (absolute : Bool) (names : List String) :
    Except FileError FileSystem := do
  let location ← fs.locateNames .kept absolute (trimNames names)
  match location.node? with
  | some _ => .error .alreadyExists
  | none => .ok (fs.put location.place (some (.dir [])))

/-- Whether `names` lead to a directory. -/
def namesDir (fs : FileSystem) (absolute : Bool) (names : List String) : Bool :=
  match fs.locateNames .followed absolute names with
  | .ok location => location.node?.any Tree.isDir
  | .error _ => false

/-- Makes the directory that `names` lead to; that it is there already is no error. -/
def settleDir (fs : FileSystem) (absolute : Bool) (names : List String) :
    FileSystem × Except FileError Unit :=
  match fs.makeDir absolute names with
  | .ok made => (made, .ok ())
  | .error error => (fs, if fs.namesDir absolute names then .ok () else .error error)

/-- Makes the directory that `names` lead to and, where that fails for want of them, first the
directories it lies in, whose names are `parents` in reverse. What was made stays when a later step
fails. -/
def makeDirs (fs : FileSystem) (absolute : Bool) :
    (names parents : List String) → FileSystem × Except FileError Unit
  | names, [] => fs.settleDir absolute names
  | names, parent :: rest =>
    match fs.makeDir absolute names with
    | .error .notFound =>
      match makeDirs fs absolute (parent :: rest).reverse rest with
      | (fs, .ok ()) => fs.settleDir absolute names
      | (fs, .error error) => (fs, .error error)
    | _ => fs.settleDir absolute names

/-- Names that matter for the directory a path lies in. -/
def isPlainName (name : String) : Bool := name ≠ "" && name ≠ "."

/-- Makes a directory with all directories it lies in. The empty path is there already. -/
def createDirs (fs : FileSystem) (path : String) : FileSystem × Except FileError Unit :=
  if path = "" then (fs, .ok ())
  else if '\x00' ∈ path.toList then (fs, .error .nulInName)
  else if maxPathBytes < path.utf8ByteSize then (fs, .error .nameTooLong)
  else
    let names := Path.components path
    fs.makeDirs (Path.isAbsolute path) names (names.filter isPlainName).reverse.tail

end FileSystem

end ConnectorSchema
