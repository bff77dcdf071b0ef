import ConnectorSchema.Filter.Shell.Expansion

/-!
Redirections: where the streams of a command lead. They are made one after another; the first that
cannot be made is complained about and ends them.
-/

namespace ConnectorSchema.Filter.Shell

/-- The stream that a path stands for. -/
def streamAt? (path : String) : Option Nat :=
  match path with
  | "/dev/stdin" => some 0
  | "/dev/stdout" => some 1
  | "/dev/stderr" => some 2
  | path =>
    match (Path.components path).reverse with
    | digits :: "fd" :: _ =>
      if path.startsWith "/dev/fd/" || path.startsWith "/proc/self/fd/" then
        Octets.number? digits.toList
      else none
    | _ => none

/-- What is said about a file that cannot be opened, or made where `fallback` says what is missing. -/
def openingWords (fallback : String) : FileError → String
  | .notFound | .notDirectory => fallback
  | error => error.words

/-- Opens a file to be read. -/
def openToRead (s : Session) (path : String) : Except FileError (Stream × Session) :=
  if path = "/dev/null" then .ok (.nowhere, s)
  else
    match streamAt? path with
    | some n =>
      match s.stream? n with
      | some stream => .ok (stream, s)
      | none => .error .notFound
    | none =>
      (s.files.readBytes path).map fun bytes =>
        let (channel, s) := s.openChannel (Octets.ofBytes bytes)
        (.source channel, s)

/-- Opens a file to be written, which is made if it is not there. Unless it is `kept`, what was in it is
gone. -/
def openToWrite (s : Session) (kept : Bool) (path : String) :
    Except FileError (Stream × Session) :=
  if path = "/dev/null" then .ok (.nowhere, s)
  else
    match streamAt? path with
    | some n =>
      match s.stream? n with
      | some stream => .ok (stream, s)
      | none => .error .notFound
    | none => do
      let old :=
        match s.files.readBytes path with
        | .ok bytes => if kept then bytes else []
        | .error _ => []
      let files ← s.files.write path old
      let location ← files.locate .followed path
      return (.file location.place, { s with files })

/-- Works out a text in a script. -/
def expandDocument (evaluate : Evaluator) (number : Nat) (s : Session) : Octets × Session :=
  let (marks, s) := expandPieces evaluate ((s.documents.lookup number).getD []) s
  (bytesIn (oneField s marks), s)

/-- Makes a stream a copy of another one, or closes it. -/
def copyStream (s : Session) (n : Nat) (target : Octets) : Except Session Session :=
  match target with
  | ['-'] => .ok (s.setStream n none)
  | [c] =>
    if !c.isDigit then .error (s.abort "Syntax error: Bad fd number".toList)
    else
      match s.stream? (Octets.number [c]) with
      | some stream => .ok (s.setStream n (some stream))
      | none => .error { s.complain (c :: ": Bad file descriptor".toList) with status := 2 }
  | _ => .error (s.abort "Syntax error: Bad fd number".toList)

/-- Makes a redirection. -/
def redirect (evaluate : Evaluator) (s : Session) (r : Redirection) : Except Session Session :=
  match r with
  | .to n (.document number) _ =>
    let (text, s) := expandDocument evaluate number s
    if !s.isOnward then .error s
    else
      let (channel, s) := s.openChannel text
      .ok (s.setStream n (some (.source channel)))
  | .to n direction word =>
    let (glyphs, s) := expandText evaluate word s
    let target := bytesIn glyphs
    let path := target.toText
    let opened (what fallback : String) (found : Except FileError (Stream × Session)) :
        Except Session Session :=
      match found with
      | .ok (stream, s) => .ok (s.setStream n (some stream))
      | .error error =>
        .error { s.complain (Octets.ofString ("cannot " ++ what ++ " ") ++ target
          ++ Octets.ofString (": " ++ openingWords fallback error)) with status := 2 }
    if !s.isOnward then .error s
    else
      match direction with
      | .copy => copyStream s n target
      | .input => opened "open" "No such file" (openToRead s path)
      | .append | .both => opened "create" "Directory nonexistent" (openToWrite s true path)
      | _ => opened "create" "Directory nonexistent" (openToWrite s false path)

/-- Makes redirections, and fails with the session in which one failed. -/
def redirectAll (evaluate : Evaluator) (redirections : List Redirection) (s : Session) :
    Except Session Session :=
  redirections.foldlM (redirect evaluate) s

end ConnectorSchema.Filter.Shell
