import ConnectorSchema.Proofs.Acceptance
import ConnectorSchema.Proofs.Except
import ConnectorSchema.Proofs.OutputFiles

/-!
What generating a file does. Of the two files of a connector the one that the formatter's answer leads
to is written and the other one removed, and apart from these two and the directory around them
nothing changes (`Model.emit_cases`). So after any calls, what a call has answered is what its files
say, and it stays so until the same connector is generated again (`Call.run_accounted`).
-/

namespace ConnectorSchema

open FileSystem

/-- A file that is to be written and the one whose place it takes. -/
structure Replacement where
  name : String
  text : String
  stale : String

namespace Model

/-- What a formatter's answer leads to: the target with the formatted text instead of the draft, or the
draft with the rendered text instead of the target. -/
def replacement (m : Model) (formatter : Formatter) : Replacement :=
  match formatter.format (Go.render m) with
  | .ok text => ⟨Path.targetName m.kind m.code, text, Path.draftName m.kind m.code⟩
  | .error _ => ⟨Path.draftName m.kind m.code, Go.render m, Path.targetName m.kind m.code⟩

/-- What is answered when the files are as the formatter's answer wants them. -/
def answer (m : Model) (dir : String) (formatter : Formatter) : Except GenerationError GeneratedFile :=
  let path := Path.output dir m.kind m.code
  ((formatter.format (Go.render m)).mapError (.rejected path)).map (.of path m)

section

variable {m : Model} {fs made fs' : FileSystem} {dir : String} {formatter : Formatter}

theorem replacement_names (m : Model) (formatter : Formatter) :
    ((m.replacement formatter).name = Path.targetName m.kind m.code
        ∧ (m.replacement formatter).stale = Path.draftName m.kind m.code)
      ∨ (m.replacement formatter).name = Path.draftName m.kind m.code
        ∧ (m.replacement formatter).stale = Path.targetName m.kind m.code := by
  rw [replacement]
  split
  · exact Or.inl ⟨rfl, rfl⟩
  · exact Or.inr ⟨rfl, rfl⟩

theorem mem_fileNames_replacement (m : Model) (formatter : Formatter) :
    (m.replacement formatter).name ∈ Path.fileNames m.kind m.code
      ∧ (m.replacement formatter).stale ∈ Path.fileNames m.kind m.code := by
  rcases m.replacement_names formatter with ⟨name, stale⟩ | ⟨name, stale⟩
  · simp [name, stale, Path.fileNames]
  · simp [name, stale, Path.fileNames]

theorem replacement_apart (m : Model) (formatter : Formatter) :
    (m.replacement formatter).stale ≠ (m.replacement formatter).name := by
  rcases m.replacement_names formatter with ⟨name, stale⟩ | ⟨name, stale⟩
  · rw [name, stale]
    exact Path.targetName_ne_draftName.symm
  · rw [name, stale]
    exact Path.targetName_ne_draftName

theorem isEntryName_replacement (noSlash : '/' ∉ m.code.toList) (formatter : Formatter) :
    IsEntryName (m.replacement formatter).name ∧ IsEntryName (m.replacement formatter).stale := by
  rcases m.replacement_names formatter with ⟨name, stale⟩ | ⟨name, stale⟩
  · rw [name, stale]
    exact ⟨Path.isEntryName_targetName noSlash, Path.isEntryName_draftName noSlash⟩
  · rw [name, stale]
    exact ⟨Path.isEntryName_draftName noSlash, Path.isEntryName_targetName noSlash⟩

theorem replacement_of_ok (dir : String) {text : String}
    (formatted : formatter.format (Go.render m) = .ok text) :
    m.replacement formatter
        = ⟨Path.targetName m.kind m.code, text, Path.draftName m.kind m.code⟩
      ∧ m.answer dir formatter = .ok (.of (Path.output dir m.kind m.code) m text) := by
  rw [replacement, answer, formatted]
  exact ⟨rfl, rfl⟩

theorem replacement_of_error (dir : String) {rejection : Rejection}
    (formatted : formatter.format (Go.render m) = .error rejection) :
    m.replacement formatter
        = ⟨Path.draftName m.kind m.code, Go.render m, Path.targetName m.kind m.code⟩
      ∧ m.answer dir formatter = .error (.rejected (Path.output dir m.kind m.code) rejection) := by
  rw [replacement, answer, formatted]
  exact ⟨rfl, rfl⟩

theorem emit_of_unmade (m : Model) (formatter : Formatter) {e : FileError}
    (failed : fs.createDirs dir = (made, .error e)) :
    (m.emit fs dir formatter).fs = made
      ∧ (m.emit fs dir formatter).result = .error (.unwritable dir e) := by
  simp only [emit, failed, and_self]

theorem emit_of_made {events : List Event} {result : Except GenerationError Unit}
    (created : fs.createDirs dir = (made, .ok ()))
    (written : made.writeInstead (Path.join dir (m.replacement formatter).name)
      (m.replacement formatter).text (Path.join dir (m.replacement formatter).stale)
        = (fs', events, result)) :
    (m.emit fs dir formatter).fs = fs'
      ∧ (m.emit fs dir formatter).result = result.bind fun _ => m.answer dir formatter := by
  rw [emit, answer]
  simp only [created]
  cases answered : formatter.format (Go.render m) with
  | error rejection =>
    simp only [replacement, answered, ← Path.draft_output, ← Path.output_eq] at written
    simp only [written]
    cases result <;> exact ⟨rfl, rfl⟩
  | ok text =>
    simp only [replacement, answered, ← Path.draft_output, ← Path.output_eq] at written
    simp only [written]
    cases result <;> exact ⟨rfl, rfl⟩

/-- In a directory that can be reached one file takes the place of another one, as far as they are not
blocked. -/
theorem emit_replaced (created : fs.createDirs dir = (made, .ok ())) (plain : made.Plain)
    (reaches : made.Reaches dir) (noSlash : '/' ∉ m.code.toList) (formatter : Formatter) :
    Replaced made (m.emit fs dir formatter).fs dir (m.replacement formatter).name
        (m.replacement formatter).text (m.replacement formatter).stale
      ∧ (((made.Blocked dir (m.replacement formatter).name
            ∨ made.Blocked dir (m.replacement formatter).stale)
          ∧ ∃ path e, (m.emit fs dir formatter).result = .error (.unwritable path e))
        ∨ ¬ made.Blocked dir (m.replacement formatter).name
          ∧ ¬ made.Blocked dir (m.replacement formatter).stale
          ∧ (m.emit fs dir formatter).result = m.answer dir formatter) := by
  obtain ⟨isName, isStale⟩ := isEntryName_replacement noSlash formatter
  obtain ⟨fs', events, replaced, outcome⟩ := writeInstead_cases plain reaches isName isStale
    (m.replacement_apart formatter) (m.replacement formatter).text
  rcases outcome with ⟨blocked, path, e, written⟩ | ⟨free, freeStale, written⟩
  · obtain ⟨same, result⟩ := emit_of_made created written
    exact ⟨same ▸ replaced, Or.inl ⟨blocked, path, e, result⟩⟩
  · obtain ⟨same, result⟩ := emit_of_made created written
    exact ⟨same ▸ replaced, Or.inr ⟨free, freeStale, result⟩⟩

/-- All that can come of a model: the directory cannot be made, or it is there and the files are
replaced. -/
theorem emit_cases (plain : fs.Plain) (noSlash : '/' ∉ m.code.toList) (dir : String)
    (formatter : Formatter) :
    ∃ made, Grown fs made (fs.startOf dir) (Path.components dir) ∧
      ((∃ e, (m.emit fs dir formatter).fs = made
          ∧ (m.emit fs dir formatter).result = .error (.unwritable dir e))
        ∨ made.Reaches dir
          ∧ Replaced made (m.emit fs dir formatter).fs dir (m.replacement formatter).name
            (m.replacement formatter).text (m.replacement formatter).stale
          ∧ ((∃ path e, (m.emit fs dir formatter).result = .error (.unwritable path e))
            ∨ ¬ made.Blocked dir (m.replacement formatter).name
              ∧ ¬ made.Blocked dir (m.replacement formatter).stale
              ∧ (m.emit fs dir formatter).result = m.answer dir formatter)) := by
  obtain ⟨made, grown, ⟨created, reaches⟩ | ⟨⟨e, failed⟩, _⟩⟩ := createDirs_cases plain dir
  · obtain ⟨replaced, outcome⟩ := emit_replaced created grown.plain reaches noSlash formatter
    exact ⟨made, grown, Or.inr ⟨reaches, replaced, outcome.imp_left And.right⟩⟩
  · exact ⟨made, grown, Or.inl ⟨e, m.emit_of_unmade formatter failed⟩⟩

end

end Model

theorem Model.of_ofDocument {kind : EntityKind} {code : String} {d : Document} {m : Model}
    (accepted : Model.ofDocument kind code d = .ok m) : m.kind = kind ∧ m.code = code := by
  obtain ⟨attributes, _, made⟩ := bind_eq_ok_iff.mp accepted
  cases made
  exact ⟨rfl, rfl⟩

theorem Document.generate_cases (d : Document) (fs : FileSystem) (kind : EntityKind) (code dir : String)
    (formatter : Formatter) :
    (∃ problem, Model.ofDocument kind code d = .error problem
        ∧ (d.generate fs kind code dir formatter).fs = fs
        ∧ (d.generate fs kind code dir formatter).result = .error (.document problem))
      ∨ ∃ m, Model.ofDocument kind code d = .ok m ∧ m.kind = kind ∧ m.code = code
        ∧ (d.generate fs kind code dir formatter).fs = (m.emit fs dir formatter).fs
        ∧ (d.generate fs kind code dir formatter).result = (m.emit fs dir formatter).result := by
  rw [Document.generate]
  cases modeled : Model.ofDocument kind code d with
  | error problem => exact Or.inl ⟨problem, rfl, rfl, rfl⟩
  | ok m =>
    obtain ⟨sameKind, sameCode⟩ := Model.of_ofDocument modeled
    exact Or.inr ⟨m, rfl, sameKind, sameCode, rfl, rfl⟩

/-! ## Calls -/

/-- A call to generate the file of a connector, for a document or for the path of one. -/
structure Call where
  subject : Document ⊕ String
  kind : EntityKind
  code : String
  formatter : Formatter

namespace Call

/-- The document that a call is about. -/
def document (c : Call) (fs : FileSystem) : Except Problem Document := c.subject.elim .ok fs.load

def model (c : Call) (fs : FileSystem) : Except Problem Model :=
  c.document fs >>= Model.ofDocument c.kind c.code

def run (c : Call) (dir : String) (fs : FileSystem) : Generation :=
  match c.subject with
  | .inl d => d.generate fs c.kind c.code dir c.formatter
  | .inr path => fs.generateFile path c.kind c.code dir c.formatter

/-- The file system after calls, one after the other. -/
def runAll (dir : String) (fs : FileSystem) (calls : List Call) : FileSystem :=
  calls.foldl (fun fs c => (c.run dir fs).fs) fs

def target (c : Call) (dir : String) : String := Path.output dir c.kind c.code

def draft (c : Call) (dir : String) : String := Path.draft (c.target dir)

/-- That what a call has answered is what its files say: they hold the text that it has made, the other
one of them is not there, and size and hash are those of the bytes on disk. -/
structure Answered (c : Call) (dir : String) (before fs : FileSystem) : Prop where
  generated : ∀ file, (c.run dir before).result = .ok file → ∃ m text,
    c.model before = .ok m ∧ c.formatter.format (Go.render m) = .ok text
      ∧ fs.readBytes (c.target dir) = .ok (Text.bytesOf text) ∧ fs.Absent (c.draft dir)
      ∧ file.path = c.target dir ∧ file.size = (Text.bytesOf text).length
      ∧ file.hash = Sha256.hex (Text.bytesOf text)
  rejected : ∀ path rejection, (c.run dir before).result = .error (.rejected path rejection) → ∃ m,
    c.model before = .ok m ∧ c.formatter.format (Go.render m) = .error rejection
      ∧ fs.readBytes (c.draft dir) = .ok (Text.bytesOf (Go.render m)) ∧ fs.Absent (c.target dir)

section

variable {c : Call} {dir : String} {before fs : FileSystem}

theorem run_cases (c : Call) (dir : String) (fs : FileSystem) :
    (∃ problem, c.model fs = .error problem ∧ (c.run dir fs).fs = fs
        ∧ (c.run dir fs).result = .error (.document problem))
      ∨ ∃ m, c.model fs = .ok m ∧ m.kind = c.kind ∧ m.code = c.code
        ∧ (c.run dir fs).fs = (m.emit fs dir c.formatter).fs
        ∧ (c.run dir fs).result = (m.emit fs dir c.formatter).result := by
  rw [model, document, run]
  cases c.subject with
  | inl d => exact d.generate_cases fs c.kind c.code dir c.formatter
  | inr path =>
    simp only [Sum.elim_inr, generateFile]
    cases fs.load path with
    | error problem => exact Or.inl ⟨problem, rfl, rfl, rfl⟩
    | ok d => exact d.generate_cases fs c.kind c.code dir c.formatter

/-- Whatever comes of a call, only its two files and directories on the way to them are touched. -/
theorem run_touches (plain : fs.Plain) (noSlash : '/' ∉ c.code.toList) (dir : String) :
    (c.run dir fs).fs.Plain ∧ (c.run dir fs).fs.here = fs.here
      ∧ (∀ p, fs.itemAt p = some .dir → (c.run dir fs).fs.itemAt p = some .dir)
      ∧ ∀ p, p ≠ fs.place (c.target dir) → p ≠ fs.place (c.draft dir) →
        (c.run dir fs).fs.itemAt p = fs.itemAt p
          ∨ fs.itemAt p = none ∧ (c.run dir fs).fs.itemAt p = some .dir
            ∧ OnWay (fs.startOf dir) (Path.components dir) p := by
  rcases c.run_cases dir fs with ⟨_, _, same, _⟩ | ⟨m, _, kind, code, same, _⟩
  · rw [same]
    exact ⟨plain, rfl, fun _ => id, fun p _ _ => Or.inl rfl⟩
  rw [same]
  obtain ⟨made, grown, ⟨_, unmade, _⟩ | ⟨_, replaced, _⟩⟩ :=
    m.emit_cases plain (code ▸ noSlash) dir c.formatter
  · rw [unmade]
    exact ⟨grown.plain, grown.here, fun _ => grown.dir, fun p _ _ => grown.itemAt p⟩
  · refine ⟨replaced.plain, replaced.here.trans grown.here,
      fun _ isDir => replaced.directories (grown.dir isDir), fun p notTarget notDraft => ?_⟩
    have place := place_eq_of_here grown.here dir
    rw [target, Path.output_eq, place_join (Path.isEntryName_targetName noSlash), ← place] at notTarget
    rw [draft, target, Path.draft_output, place_join (Path.isEntryName_draftName noSlash), ← place]
      at notDraft
    have untouched : (m.emit fs dir c.formatter).fs.itemAt p = made.itemAt p := by
      rcases m.replacement_names c.formatter with ⟨name, stale⟩ | ⟨name, stale⟩
      · rw [kind, code] at name stale
        exact replaced.others (name ▸ notTarget) (stale ▸ notDraft)
      · rw [kind, code] at name stale
        exact replaced.others (name ▸ notDraft) (stale ▸ notTarget)
    rw [untouched]
    exact grown.itemAt p

/-- What stands under some names in a directory is still there. -/
structure Retains (fs fs' : FileSystem) (dir : String) (names : List String) : Prop where
  plain : fs'.Plain
  here : fs'.here = fs.here
  reaches : fs'.Reaches dir
  itemAt : ∀ name ∈ names, fs'.itemAt (fs.place dir ++ [name]) = fs.itemAt (fs.place dir ++ [name])

theorem Retains.refl {names : List String} (plain : fs.Plain) (reaches : fs.Reaches dir) :
    Retains fs fs dir names :=
  ⟨plain, rfl, reaches, fun _ _ => rfl⟩

theorem Retains.trans {mid fs' : FileSystem} {names : List String} (first : Retains fs mid dir names)
    (second : Retains mid fs' dir names) : Retains fs fs' dir names := by
  refine ⟨second.plain, second.here.trans first.here, second.reaches, fun name member => ?_⟩
  have step := second.itemAt name member
  rw [place_eq_of_here first.here] at step
  exact step.trans (first.itemAt name member)

theorem run_retains (plain : fs.Plain) (reaches : fs.Reaches dir) (noSlash : '/' ∉ c.code.toList)
    {kind : EntityKind} {code : String} (different : (kind, code) ≠ (c.kind, c.code)) :
    Retains fs (c.run dir fs).fs dir (Path.fileNames kind code) := by
  obtain ⟨plainAfter, here, kept, touches⟩ := run_touches plain noSlash dir
  refine ⟨plainAfter, here, reaches.mono here kept, fun name member => ?_⟩
  have other {its : String} (itsName : its ∈ Path.fileNames c.kind c.code) :
      fs.place dir ++ [name] ≠ fs.place dir ++ [its] := by
    intro same
    have equal : name = its := by simpa using same
    exact Path.disjoint_fileNames different member (equal ▸ itsName)
  have notTarget : fs.place dir ++ [name] ≠ fs.place (c.target dir) := by
    rw [target, Path.output_eq, place_join (Path.isEntryName_targetName noSlash)]
    exact other List.mem_cons_self
  have notDraft : fs.place dir ++ [name] ≠ fs.place (c.draft dir) := by
    rw [draft, target, Path.draft_output, place_join (Path.isEntryName_draftName noSlash)]
    exact other (List.mem_cons_of_mem _ List.mem_cons_self)
  rcases touches _ notTarget notDraft with same | ⟨nothing, _, onWay⟩
  · exact same
  · -- the way is there already, so no directory is made on it
    have isDir : fs.itemAt (fs.place dir ++ [name]) = some .dir := reaches.passes.dir_of_onWay onWay
    rw [nothing] at isDir
    contradiction

theorem runAll_retains {kind : EntityKind} {code : String} {calls : List Call} (plain : fs.Plain)
    (reaches : fs.Reaches dir) (noSlash : ∀ c ∈ calls, '/' ∉ c.code.toList)
    (different : ∀ c ∈ calls, (kind, code) ≠ (c.kind, c.code)) :
    Retains fs (runAll dir fs calls) dir (Path.fileNames kind code) := by
  induction calls generalizing fs with
  | nil => exact .refl plain reaches
  | cons c rest ih =>
    obtain ⟨hereSlash, laterSlash⟩ := List.forall_mem_cons.mp noSlash
    obtain ⟨hereOther, laterOther⟩ := List.forall_mem_cons.mp different
    have first := run_retains plain reaches hereSlash hereOther
    exact first.trans (ih first.plain first.reaches laterSlash laterOther)

/-- The two files of a replacement that went through, in a file system that still has them. -/
theorem readBytes_of_replaced {made after : FileSystem} {r : Replacement}
    (replaced : Replaced made after dir r.name r.text r.stale) (isName : IsEntryName r.name)
    (isStale : IsEntryName r.stale) (apart : r.stale ≠ r.name) (free : ¬ made.Blocked dir r.name)
    (freeStale : ¬ made.Blocked dir r.stale) {names : List String} (written : r.name ∈ names)
    (removed : r.stale ∈ names) (retains : Retains after fs dir names) :
    fs.readBytes (Path.join dir r.name) = .ok (Text.bytesOf r.text)
      ∧ fs.Absent (Path.join dir r.stale) := by
  have toMade : fs.place dir = made.place dir :=
    place_eq_of_here (retains.here.trans replaced.here) dir
  have fromAfter := place_eq_of_here replaced.here dir
  have there := retains.itemAt _ written
  have nothing := retains.itemAt _ removed
  rw [fromAfter] at there nothing
  constructor
  · rw [readBytes_join retains.plain retains.reaches isName, (not_blocked_iff.mp free).1, toMade, there,
      replaced.written free]
    rfl
  · refine absent_join retains.plain retains.reaches isStale (not_blocked_iff.mp freeStale).1 ?_
    rw [toMade, nothing, replaced.removed apart free freeStale]

/-- Where nothing was generated or rejected, nothing was answered. -/
theorem Answered.of_failed {e : GenerationError} (failed : (c.run dir before).result = .error e)
    (other : ∀ path rejection, e ≠ .rejected path rejection) : Answered c dir before fs where
  generated _ answered := by
    rw [failed] at answered
    contradiction
  rejected path rejection answered := by
    rw [failed] at answered
    exact absurd (Except.error.inj answered) (other path rejection)

theorem answered_of_retains (plain : before.Plain) (noSlash : '/' ∉ c.code.toList)
    (retains : (c.run dir before).fs.Reaches dir →
      Retains (c.run dir before).fs fs dir (Path.fileNames c.kind c.code)) :
    Answered c dir before fs := by
  rcases c.run_cases dir before with ⟨_, _, _, failed⟩ | ⟨m, modeled, kind, code, same, result⟩
  · exact .of_failed failed fun _ _ => GenerationError.noConfusion
  obtain ⟨made, _, ⟨e, _, failed⟩ | ⟨reaches, replaced, outcome⟩⟩ :=
    m.emit_cases plain (code ▸ noSlash) dir c.formatter
  · exact .of_failed (result.trans failed) fun _ _ => GenerationError.noConfusion
  rcases outcome with ⟨_, _, failed⟩ | ⟨free, freeStale, answer⟩
  · exact .of_failed (result.trans failed) fun _ _ => GenerationError.noConfusion
  -- both files are as the replacement left them; which of them is the target, the formatter has said
  have kept := retains (same ▸ replaced.reaches reaches)
  rw [same] at kept
  obtain ⟨isName, isStale⟩ := Model.isEntryName_replacement (code ▸ noSlash) c.formatter
  obtain ⟨written, removed⟩ := m.mem_fileNames_replacement c.formatter
  rw [kind, code] at written removed
  have files := readBytes_of_replaced replaced isName isStale (m.replacement_apart c.formatter) free
    freeStale written removed kept
  have targetFile : c.target dir = Path.join dir (Path.targetName c.kind c.code) := rfl
  have draftFile : c.draft dir = Path.join dir (Path.draftName c.kind c.code) := Path.draft_output
  cases formatted : c.formatter.format (Go.render m) with
  | ok text =>
    obtain ⟨leads, answered⟩ := Model.replacement_of_ok dir formatted
    rw [leads, kind, code] at files
    dsimp only at files
    rw [answer, answered, kind, code] at result
    constructor
    · intro file generated
      obtain rfl := Except.ok.inj (result.symm.trans generated)
      rw [targetFile, draftFile]
      exact ⟨m, text, modeled, formatted, files.1, files.2, rfl, rfl, rfl⟩
    · intro _ _ rejected
      rw [result] at rejected
      contradiction
  | error rejection =>
    obtain ⟨leads, answered⟩ := Model.replacement_of_error dir formatted
    rw [leads, kind, code] at files
    dsimp only at files
    rw [answer, answered, kind, code] at result
    constructor
    · intro _ generated
      rw [result] at generated
      contradiction
    · intro path rejection' rejected
      obtain ⟨_, rfl⟩ := GenerationError.rejected.inj (Except.error.inj (result.symm.trans rejected))
      rw [targetFile, draftFile]
      exact ⟨m, modeled, formatted, files.1, files.2⟩

theorem runAll_plain {calls : List Call} (plain : fs.Plain)
    (noSlash : ∀ c ∈ calls, '/' ∉ c.code.toList) : (runAll dir fs calls).Plain := by
  induction calls generalizing fs with
  | nil => exact plain
  | cons c rest ih =>
    obtain ⟨here, later⟩ := List.forall_mem_cons.mp noSlash
    exact ih (run_touches plain here dir).1 later

/-- A call fails because of its document exactly if there is no model, and then nothing is done. -/
theorem document_iff (plain : fs.Plain) (noSlash : '/' ∉ c.code.toList) (dir : String)
    (problem : Problem) :
    (c.model fs = .error problem ↔ (c.run dir fs).result = .error (.document problem))
      ∧ ((c.run dir fs).result = .error (.document problem) → (c.run dir fs).fs = fs) := by
  rcases c.run_cases dir fs with ⟨other, failed, same, result⟩ | ⟨m, modeled, kind, code, _, result⟩
  · rw [failed, result]
    refine ⟨⟨fun equal => ?_, fun equal => ?_⟩, fun _ => same⟩
    · rw [Except.error.inj equal]
    · rw [GenerationError.document.inj (Except.error.inj equal)]
  · have never : (m.emit fs dir c.formatter).result ≠ .error (.document problem) := by
      intro failed
      obtain ⟨_, _, ⟨_, _, unmade⟩ | ⟨_, _, ⟨_, _, unwritten⟩ | ⟨_, _, answered⟩⟩⟩ :=
        m.emit_cases plain (code ▸ noSlash) dir c.formatter
      · cases unmade.symm.trans failed
      · cases unwritten.symm.trans failed
      · rw [answered] at failed
        cases formatted : c.formatter.format (Go.render m) with
        | ok text =>
          rw [(Model.replacement_of_ok dir formatted).2] at failed
          contradiction
        | error rejection =>
          rw [(Model.replacement_of_error dir formatted).2] at failed
          exact GenerationError.noConfusion (Except.error.inj failed)
    rw [modeled, result]
    refine ⟨⟨fun equal => ?_, fun failed => absurd failed never⟩, fun failed => absurd failed never⟩
    contradiction

/-- After any calls into one directory: a call without a model does nothing; what a call has answered
is what its files say, right after it and until the same connector is generated again; and apart from
its two files and directories on the way to them it touches nothing. -/
theorem run_accounted (plain : fs.Plain) (dir : String) {earlier later : List Call}
    (noSlash : ∀ call ∈ earlier ++ c :: later, '/' ∉ call.code.toList) :
    let before := runAll dir fs earlier
    let g := c.run dir before
    (∀ problem, (c.model before = .error problem ↔ g.result = .error (.document problem))
        ∧ (g.result = .error (.document problem) → g.fs = before))
      ∧ Answered c dir before g.fs
      ∧ ((∀ call ∈ later, (c.kind, c.code) ≠ (call.kind, call.code)) →
        Answered c dir before (runAll dir g.fs later))
      ∧ ∀ p, p ≠ before.place (c.target dir) → p ≠ before.place (c.draft dir) →
        g.fs.itemAt p = before.itemAt p
          ∨ before.itemAt p = none ∧ g.fs.itemAt p = some .dir
            ∧ OnWay (before.startOf dir) (Path.components dir) p := by
  intro before g
  obtain ⟨earlierSlash, rest⟩ := List.forall_mem_append.mp noSlash
  obtain ⟨hereSlash, laterSlash⟩ := List.forall_mem_cons.mp rest
  have plainBefore : before.Plain := runAll_plain plain earlierSlash
  obtain ⟨plainAfter, _, _, touches⟩ := run_touches plainBefore hereSlash dir
  exact ⟨document_iff plainBefore hereSlash dir,
    answered_of_retains plainBefore hereSlash fun reaches => .refl plainAfter reaches,
    fun others => answered_of_retains plainBefore hereSlash fun reaches =>
      runAll_retains plainAfter reaches laterSlash others,
    touches⟩

/-- An earlier target gives way to the draft of a text that is rejected. A text that is formatted then has
its file and the digest of its bytes, and a later call that finds no document leaves all of them as they
are. -/
theorem run_accounted_outcomes :
    let old : FileSystem := ⟨.dir [("out", .dir [("source_pg.go", .file [])])], []⟩
    let refuses : Formatter := ⟨"gofmt", some ("gofmt", []), fun _ => .error (.diagnosed "no")⟩
    let formats : Formatter := ⟨"gofmt", some ("gofmt", []), fun _ => .ok "abc"⟩
    let refused : Call := ⟨.inl (.ofEntries "Postgres" []), .source, "pg", refuses⟩
    let written : Call := ⟨.inl (.ofEntries "Kafka" []), .destination, "kafka", formats⟩
    let missing : Call := ⟨.inr "my.json", .source, "my", refuses⟩
    let after := runAll "out" (refused.run "out" old).fs [written, missing]
    old.Plain ∧ (∀ call ∈ [refused, written, missing], '/' ∉ call.code.toList)
      ∧ (∃ m, refused.model old = .ok m
        ∧ after.readBytes "out/source_pg.go.unformatted" = .ok (Text.bytesOf (Go.render m))
        ∧ after.Absent "out/source_pg.go")
      ∧ ∃ file, (written.run "out" (refused.run "out" old).fs).result = .ok file ∧ file.size = 3
        ∧ file.hash = "ba7816bf8f01cfea414140de5dae2223b00361a396177a9cb410ff61f20015ad"
        ∧ after.readBytes "out/destination_kafka.go" = .ok [0x61, 0x62, 0x63]
        ∧ after.Absent "out/destination_kafka.go.unformatted" := by
  intro old refuses formats refused written missing after
  have inner : (Tree.dir [("source_pg.go", .file [])]).Plain :=
    .dir (by decide) (by simpa using .file []) (by decide)
  have plain : old.Plain := ⟨.dir (by decide) (by simpa using inner) (by decide), rfl⟩
  have noSlash : ∀ call ∈ [] ++ refused :: [written, missing], '/' ∉ call.code.toList := by
    simp only [List.nil_append, List.forall_mem_cons, refused, written, missing]
    decide
  have noSlashNext : ∀ call ∈ [refused] ++ written :: [missing], '/' ∉ call.code.toList := noSlash
  obtain ⟨_, _, lasting, _⟩ := run_accounted plain "out" noSlash
  obtain ⟨_, _, lastingNext, _⟩ := run_accounted plain "out" noSlashNext
  refine ⟨plain, noSlash, ?_, ?_⟩
  · have rejected : (refused.run "out" old).result
        = .error (.rejected "out/source_pg.go" (.diagnosed "no")) := by
      dsimp only [refused, refuses, old]
      rfl
    obtain ⟨m, modeled, _, draft, target⟩ :=
      (lasting (by simp [refused, written, missing])).rejected _ _ rejected
    exact ⟨m, modeled, draft, target⟩
  · have first : runAll "out" old [refused] = (refused.run "out" old).fs := rfl
    have next : after = runAll "out" (written.run "out" (refused.run "out" old).fs).fs [missing] := by
      simp only [after, runAll, List.foldl_cons]
    have isOk : (written.run "out" (refused.run "out" old).fs).result.isOk := by decide +kernel
    obtain ⟨file, generated⟩ := exists_eq_ok_of_isOk isOk
    rw [first, ← next] at lastingNext
    obtain ⟨m, text, _, formatted, bytes, draft, _, size, hash⟩ :=
      (lastingNext (by simp [written, missing])).generated file generated
    obtain rfl : "abc" = text := Except.ok.inj formatted
    exact ⟨file, generated, size, hash.trans (by decide +kernel), bytes, draft⟩

end

end Call

end ConnectorSchema
