import ConnectorSchema.Digest.Sha256
import ConnectorSchema.Files.FileSystem
import ConnectorSchema.Formatter
import ConnectorSchema.Go.File
import ConnectorSchema.Report
import ConnectorSchema.Schema.OfDocument

/-!
Generating the file of one connector: load its document, model it, render and format the model and
write the result. A text that the formatter rejects is written beside its target, and whichever of
the two files is not up to date is removed. What is done to the file system before a failure stays.
-/

namespace ConnectorSchema

/-- Why no file was generated. -/
inductive GenerationError where
  | document (problem : Problem)
  | unwritable (path : String) (error : FileError)
  | rejected (path : String) (rejection : Rejection)

namespace GenerationError

def message : GenerationError → String
  | .document problem => problem.message
  | .unwritable path error => "failed to write " ++ path ++ ": " ++ error.message
  | .rejected path rejection => "formatting " ++ path ++ " failed: " ++ rejection.message

end GenerationError

/-- The causes behind a problem, outermost first. Trouble with a file has the system's own word
behind it. -/
def Problem.causes (p : Problem) : List String :=
  match p with
  | .unreadable _ error => [p.message, error.message]
  | _ => [p.message]

def GenerationError.causes (e : GenerationError) : List String :=
  match e with
  | .document problem => problem.causes
  | .unwritable _ error => [e.message, error.message]
  | .rejected .. => [e.message]

/-- A file that was written. -/
structure GeneratedFile where
  path : String
  kind : EntityKind
  code : String
  attributeCount : Nat
  hash : String
  size : Nat
deriving DecidableEq

/-- What becomes of one request: the file system afterwards, the events on the way, the result. -/
structure Generation where
  fs : FileSystem
  events : List Event
  result : Except GenerationError GeneratedFile

/-- The same with earlier events in front. -/
def Generation.after (events : List Event) (g : Generation) : Generation :=
  { g with events := events ++ g.events }

/-- Removes a file that is out of date; that there is none is no failure. -/
def FileSystem.removeStale (fs : FileSystem) (path : String) :
    Except FileError (FileSystem × List Event) :=
  match fs.remove path with
  | .ok fs => .ok (fs, [.removedStale path])
  | .error .notFound => .ok (fs, [])
  | .error error => .error error

/-- Writes one file and removes another that it takes the place of. -/
def FileSystem.writeInstead (fs : FileSystem) (path text stale : String) :
    FileSystem × List Event × Except GenerationError Unit :=
  match fs.write path (Text.bytesOf text) with
  | .error error => (fs, [], .error (.unwritable path error))
  | .ok fs =>
    match fs.removeStale stale with
    | .error error => (fs, [], .error (.unwritable stale error))
    | .ok (fs, events) => (fs, events, .ok ())

/-- The file that was written for a model. -/
def GeneratedFile.of (path : String) (m : Model) (text : String) : GeneratedFile :=
  let bytes := Text.bytesOf text
  ⟨path, m.kind, m.code, m.attributes.length, Sha256.hex bytes, bytes.length⟩

/-- Renders, formats and writes a model. -/
def Model.emit (m : Model) (fs : FileSystem) (dir : String) (formatter : Formatter) : Generation :=
  let path := Path.output dir m.kind m.code
  let draft := Path.draft path
  let source := Go.render m
  match fs.createDirs dir with
  | (fs, .error error) => ⟨fs, [], .error (.unwritable dir error)⟩
  | (fs, .ok ()) =>
    let running := formatter.command?.toList.map fun (program, arguments) =>
      Event.formatting program arguments
    match formatter.format source with
    | .error rejection =>
      match fs.writeInstead draft source path with
      | (fs, events, .error error) => ⟨fs, running ++ events, .error error⟩
      | (fs, events, .ok ()) =>
        ⟨fs, running ++ events ++ [.rejected formatter.name path draft],
          .error (.rejected path rejection)⟩
    | .ok text =>
      match fs.writeInstead path text draft with
      | (fs, events, .error error) => ⟨fs, running ++ events, .error error⟩
      | (fs, events, .ok ()) =>
        ⟨fs, running ++ events ++ [.generated path], .ok (.of path m text)⟩

/-- The events of modelling a document. -/
def Document.modelEvents (d : Document) (kind : EntityKind) (code : String)
    (model : Except Problem Model) : List Event :=
  (passedOver kind kind.syntheticAttributes d.userEntries).map (fun e => .passedOver e.name)
  ++ match model with
    | .ok m => [.modeled kind code m.attributes.length]
    | .error _ => []

/-- Generates the file for a document that has been read. -/
def Document.generate (d : Document) (fs : FileSystem) (kind : EntityKind) (code dir : String)
    (formatter : Formatter) : Generation :=
  let model := Model.ofDocument kind code d
  let events := .generating kind code :: d.modelEvents kind code model
  match model with
  | .error problem => ⟨fs, events, .error (.document problem)⟩
  | .ok m => (m.emit fs dir formatter).after events

/-- Reads the document in a file. -/
def FileSystem.load (fs : FileSystem) (path : String) : Except Problem Document :=
  match fs.readText path with
  | .error error => .error (.unreadable path error)
  | .ok text => Document.parse path text

/-- The event of having read a document. -/
def Document.loadedEvent (d : Document) (path : String) : Event :=
  .loaded d.displayName d.entries.length path

/-- Generates the file for the document in a file. -/
def FileSystem.generateFile (fs : FileSystem) (path : String) (kind : EntityKind)
    (code dir : String) (formatter : Formatter) : Generation :=
  match fs.load path with
  | .error problem => ⟨fs, [], .error (.document problem)⟩
  | .ok d => (d.generate fs kind code dir formatter).after [d.loadedEvent path]

end ConnectorSchema
