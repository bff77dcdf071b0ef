import ConnectorSchema.Files.FileSystem
import ConnectorSchema.Report

/-!
Finding the connectors of a backend: a plugin is a directory, not a link to one, that holds a
document, which is a file and not a link either.
-/

namespace ConnectorSchema

structure Connector where
  kind : EntityKind
  /-- The name of the plugin's directory. -/
  code : String
  /-- The path of its document. -/
  path : String
deriving DecidableEq

/-- The connector that an entry of a directory of plugins is. -/
def Connector.ofPlugin? (kind : EntityKind) (dir : String) (entry : String × Tree) :
    Option Connector :=
  match entry.2 with
  | .dir files =>
    match Tree.child? Path.documentName files with
    | some (.file _) =>
      some ⟨kind, entry.1, Path.join (Path.join dir entry.1) Path.documentName⟩
    | _ => none
  | _ => none

/-- Puts a connector into a list in order of codes. -/
def Connector.insert (c : Connector) : List Connector → List Connector
  | [] => [c]
  | d :: rest => if c.code < d.code then c :: d :: rest else d :: insert c rest

namespace FileSystem

/-- The connectors of a kind, in order of their codes. -/
def connectors (fs : FileSystem) (backend : String) (kind : EntityKind) : List Connector :=
  let dir := Path.plugins backend kind
  match fs.node? dir with
  | some (.dir entries) => (entries.filterMap (Connector.ofPlugin? kind dir)).foldr Connector.insert []
  | _ => []

/-- The connectors of several kinds, kind by kind. -/
def connectorsOf (fs : FileSystem) (backend : String) (kinds : List EntityKind) : List Connector :=
  kinds.flatMap (fs.connectors backend)

/-- What is reported about the search for one kind. -/
def discoveryEvent (fs : FileSystem) (backend : String) (kind : EntityKind) : Event :=
  let dir := Path.plugins backend kind
  if fs.isDir dir then .discovered (fs.connectors backend kind).length kind dir
  else .noPlugins kind dir

end FileSystem

end ConnectorSchema
