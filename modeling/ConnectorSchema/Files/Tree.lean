import ConnectorSchema.Files.FileError

/-!
Directory trees. A place in a tree is a list of names from its root. `get?` looks there, `update`
puts something there or takes it away. Entries of a directory are kept in order of their names.
-/

namespace ConnectorSchema

inductive Tree where
  | file (bytes : List UInt8)
  /-- A symbolic link, with the path it leads to. -/
  | link (target : String)
  | dir (entries : List (String × Tree))

namespace Tree

def isDir : Tree → Bool
  | .dir _ => true
  | _ => false

/-- What a directory has under a name. -/
def child? (name : String) : List (String × Tree) → Option Tree
  | [] => none
  | (n, t) :: rest => if n = name then some t else child? name rest

/-- Puts an entry in its place, or in the place of the one with its name. -/
def putEntry (name : String) (t : Tree) : List (String × Tree) → List (String × Tree)
  | [] => [(name, t)]
  | (n, old) :: rest =>
    if name < n then (name, t) :: (n, old) :: rest
    else if n = name then (name, t) :: rest
    else (n, old) :: putEntry name t rest

def dropEntry (name : String) (entries : List (String × Tree)) : List (String × Tree) :=
  entries.filter fun e => e.1 ≠ name

/-- What is at a place. -/
def get? : Tree → List String → Option Tree
  | t, [] => some t
  | .dir entries, name :: rest => (child? name entries).bind fun t => t.get? rest
  | _, _ :: _ => none
termination_by structural _ place => place

/-- The tree with `new` at a place, or with nothing there. The directory around the place must be
there; otherwise, and at the root without a new tree, nothing changes. -/
def update (new : Option Tree) : Tree → List String → Tree
  | t, [] => new.getD t
  | .dir entries, [name] =>
    match new with
    | some t => .dir (putEntry name t entries)
    | none => .dir (dropEntry name entries)
  | .dir entries, name :: next :: rest =>
    match child? name entries with
    | some t => .dir (putEntry name (update new t (next :: rest)) entries)
    | none => .dir entries
  | t, _ :: _ => t
termination_by structural _ place => place

end Tree

end ConnectorSchema
