import ConnectorSchema.CommandLine.Session

/-!
The program on a real disk. The files that a request is about are read into a file system, the
session runs there, and what has changed in the output directory is written back.
-/

namespace ConnectorSchema.Main

open CommandLine

/-- The bytes of a file on disk. -/
def readFile (path : String) : IO (List UInt8) := do
  return (← IO.FS.readBinFile path).toList

/-- What is on disk at a path, so many levels of directories deep. Links are followed on request, and
only files with certain names are read. -/
def readTree (followLinks : Bool) (wanted : String → Bool) (levels : Nat) (path name : String) :
    IO (Option Tree) := do
  let place := (← IO.currentDir) / path
  try
    let found ← if followLinks then place.metadata else place.symlinkMetadata
    match found.type with
    | .dir =>
      match levels with
      | 0 => return some (.dir [])
      | levels + 1 =>
        let mut entries := []
        for entry in ← place.readDir do
          let inside := Path.join path entry.fileName
          if let some t ← readTree followLinks wanted levels inside entry.fileName then
            entries := Tree.putEntry entry.fileName t entries
        return some (.dir entries)
    | .symlink => return some (.link "")
    | _ =>
      let bytes ← if wanted name then readFile path else pure []
      return some (.file bytes)
  catch _ => return none

/-- The names of the directory a path lies in. -/
def parentNames (path : String) : List String :=
  ((Path.components path).filter FileSystem.isPlainName).dropLast

/-- The file system with a tree at a path. -/
def place (fs : FileSystem) (path : String) (t : Option Tree) : FileSystem :=
  match t with
  | none => fs
  | some t =>
    let start := if Path.isAbsolute path then "/" else ""
    let (fs, _) := fs.createDirs (start ++ "/".intercalate (parentNames path))
    match fs.locate .followed path with
    | .ok location => fs.put location.place (some t)
    | .error _ => fs

/-- Reads the plugins of some kinds. -/
def readPlugins (fs : FileSystem) (backend : String) (selection : Selection) : IO FileSystem :=
  selection.kinds.foldlM (fun fs kind => do
    let dir := Path.plugins backend kind
    unless ← ((← IO.currentDir) / dir).isDir do return fs
    let plugins ← ((← IO.currentDir) / dir).readDir
    let mut entries := []
    for plugin in plugins do
      let inside := Path.join dir plugin.fileName
      if let some t ← readTree false (· = Path.documentName) 1 inside plugin.fileName then
        entries := Tree.putEntry plugin.fileName t entries
    return place fs dir (some (.dir entries))) fs

/-- Reads what a command is about. -/
def readFor (fs : FileSystem) : Command → IO FileSystem
  | .generate backend output selection _ => do
    return place (← readPlugins fs backend selection) output
      (← readTree true (fun _ => true) 1 output "")
  | .list backend selection => readPlugins fs backend selection
  | .inspect file _ _ => do return place fs file (← readTree true (fun _ => true) 0 file "")

/-- The files of a directory. -/
def filesOf (fs : FileSystem) (dir : String) : List (String × List UInt8) :=
  match fs.node? dir with
  | some (.dir entries) =>
    entries.filterMap fun e =>
      match e.2 with
      | .file bytes => some (e.1, bytes)
      | _ => none
  | _ => []

/-- Writes to disk what has changed in a directory. -/
def writeBack (dir : String) (before after : FileSystem) : IO Unit := do
  if after.isDir dir && !before.isDir dir then IO.FS.createDirAll dir
  let old := filesOf before dir
  let new := filesOf after dir
  for (name, bytes) in new do
    unless old.lookup name = some bytes do
      IO.FS.writeBinFile (Path.join dir name) (ByteArray.mk bytes.toArray)
  for (name, _) in old do
    unless (new.lookup name).isSome do IO.FS.removeFile (Path.join dir name)

/-- The variables of the environment that matter. -/
def readEnvironment : IO Environment := do
  let names := "RUST_LOG" :: searchVariable :: [Parameter.backend, .output, .formatter].filterMap (·.variableName?)
  let mut environment := []
  for name in names do
    if let some value ← IO.getEnv name then environment := (name, value) :: environment
  return environment

def tell (e : Ending) : IO UInt32 := do
  IO.print e.out
  for report in e.reports do IO.eprintln report.line
  IO.eprint e.complaint
  return UInt32.ofNat e.status

end ConnectorSchema.Main

open ConnectorSchema CommandLine in
def main (arguments : List String) : IO UInt32 := do
  let environment ← ConnectorSchema.Main.readEnvironment
  let names := Path.components (← IO.currentDir).toString |>.filter FileSystem.isPlainName
  let (start, _) := (FileSystem.mk (.dir []) []).createDirs ("/" ++ "/".intercalate names)
  let fs : FileSystem := { start with here := names }
  match Request.ofArguments environment arguments with
  | .error interruption => Main.tell (interruption.ending fs)
  | .ok request =>
    let before ← Main.readFor fs request.command
    let ending := request.run environment before
    if let .generate _ output _ _ := request.command then
      Main.writeBack output before ending.fs
    Main.tell ending
