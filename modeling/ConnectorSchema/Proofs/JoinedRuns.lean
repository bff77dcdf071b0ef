import ConnectorSchema.Proofs.Emission
import ConnectorSchema.Proofs.FoundConnectors

/-!
Connectors one after the other. After any of them, each place has what it has when only the connector
that the place belongs to is generated (`Joined`): the directory around the files is made by the first
one that has a model, and from then on each one changes its own two files and nothing else. So
neither the order nor the others make a difference.
-/

namespace ConnectorSchema

open FileSystem

/-- The directory for the files is there, made in this state of things. -/
structure Made (fs made : FileSystem) (output : String) : Prop where
  plain : made.Plain
  reaches : made.Reaches output
  created : fs.createDirs output = (made, .ok ())

namespace Connector

/-- The call that generates a connector's file. -/
def call (c : Connector) (formatter : Formatter) : Call := ⟨.inr c.path, c.kind, c.code, formatter⟩

def model (c : Connector) (fs : FileSystem) : Except Problem Model :=
  fs.load c.path >>= Model.ofDocument c.kind c.code

/-- Whether something is written for a connector. -/
def Emits (c : Connector) (fs : FileSystem) : Prop := ∃ m, c.model fs = .ok m

/-- What comes of a connector when no other one is generated before it. -/
def alone (c : Connector) (start : FileSystem) (output : String) (formatter : Formatter) : Generation :=
  (c.call formatter).run output start

/-- The places of a connector's two files. -/
def places (c : Connector) (start : FileSystem) (output : String) : List (List String) :=
  (Path.fileNames c.kind c.code).map (start.place output ++ [·])

section

variable {c d : Connector} {start fs : FileSystem} {output backend : String} {formatter : Formatter}
  {p : List String}

theorem mem_places {name : String} (member : name ∈ Path.fileNames c.kind c.code) :
    start.place output ++ [name] ∈ c.places start output :=
  List.mem_map.mpr ⟨name, member, rfl⟩

/-- The two files of a connector are at its places. -/
theorem place_mem_places (isName : IsEntryName c.code) {path : String}
    (isFile : path ∈ [Path.output output c.kind c.code, Path.draft (Path.output output c.kind c.code)]) :
    start.place path ∈ c.places start output := by
  rcases List.mem_pair.mp isFile with rfl | rfl
  · rw [Path.output_eq, place_join (Path.isEntryName_targetName isName.noSlash)]
    exact mem_places List.mem_cons_self
  · rw [Path.draft_output, place_join (Path.isEntryName_draftName isName.noSlash)]
    exact mem_places (List.mem_cons_of_mem _ List.mem_cons_self)

/-- No place belongs to two connectors. -/
theorem places_apart (different : c.key ≠ d.key) (mine : p ∈ c.places start output) :
    p ∉ d.places start output := by
  intro its
  obtain ⟨name, inMine, rfl⟩ := List.mem_map.mp mine
  obtain ⟨other, inIts, same⟩ := List.mem_map.mp its
  have equal : other = name := by simpa using same
  exact Path.disjoint_fileNames different inMine (equal ▸ inIts)

theorem run_of_model {m : Model} (modeled : c.model fs = .ok m) (output : String)
    (formatter : Formatter) :
    m.kind = c.kind ∧ m.code = c.code
      ∧ ((c.call formatter).run output fs).fs = (m.emit fs output formatter).fs
      ∧ ((c.call formatter).run output fs).result = (m.emit fs output formatter).result := by
  rcases (c.call formatter).run_cases output fs with ⟨_, failed, _⟩ | ⟨m', found, rest⟩
  · cases modeled.symm.trans failed
  · cases modeled.symm.trans found
    exact rest

theorem mem_fileNames_replacement {m : Model} (modeled : c.model fs = .ok m) (formatter : Formatter) :
    (m.replacement formatter).name ∈ Path.fileNames c.kind c.code
      ∧ (m.replacement formatter).stale ∈ Path.fileNames c.kind c.code := by
  obtain ⟨kind, code, _⟩ := run_of_model modeled "" formatter
  rw [← kind, ← code]
  exact m.mem_fileNames_replacement formatter

/-- In a directory that was made, the files of a connector are replaced. -/
theorem run_replaced {m : Model} {made : FileSystem} (modeled : c.model fs = .ok m)
    (dir : Made fs made output) (isName : IsEntryName c.code) (formatter : Formatter) :
    Replaced made ((c.call formatter).run output fs).fs output (m.replacement formatter).name
        (m.replacement formatter).text (m.replacement formatter).stale
      ∧ (((made.Blocked output (m.replacement formatter).name
            ∨ made.Blocked output (m.replacement formatter).stale)
          ∧ ((c.call formatter).run output fs).result.toOption = none)
        ∨ ¬ made.Blocked output (m.replacement formatter).name
          ∧ ¬ made.Blocked output (m.replacement formatter).stale
          ∧ ((c.call formatter).run output fs).result = m.answer output formatter) := by
  obtain ⟨_, code, same, result⟩ := run_of_model modeled output formatter
  rw [same, result]
  obtain ⟨replaced, outcome⟩ :=
    Model.emit_replaced dir.created dir.plain dir.reaches (code ▸ isName.noSlash) formatter
  refine ⟨replaced, outcome.imp_left fun ⟨blocked, path, e, failed⟩ => ⟨blocked, ?_⟩⟩
  rw [failed]
  rfl

/-- Outside of its own places a connector changes nothing in a directory that was made. -/
theorem itemAt_run {m : Model} {made : FileSystem} (modeled : c.model fs = .ok m)
    (dir : Made fs made output) (here : made.here = start.here) (isName : IsEntryName c.code)
    (formatter : Formatter) (outside : p ∉ c.places start output) :
    ((c.call formatter).run output fs).fs.itemAt p = made.itemAt p := by
  obtain ⟨isFile, isStale⟩ := mem_fileNames_replacement modeled formatter
  have apart {name : String} (inNames : name ∈ Path.fileNames c.kind c.code) :
      p ≠ made.place output ++ [name] := by
    rintro rfl
    exact outside (place_eq_of_here here output ▸ mem_places inNames)
  exact (run_replaced modeled dir isName formatter).1.others (apart isFile) (apart isStale)

theorem run_of_not_emits (none : ¬ c.Emits fs) (output : String) (formatter : Formatter) :
    ((c.call formatter).run output fs).fs = fs
      ∧ ∃ problem, ((c.call formatter).run output fs).result = .error (.document problem) := by
  rcases (c.call formatter).run_cases output fs with ⟨problem, _, same, failed⟩ | ⟨m, found, _⟩
  · exact ⟨same, problem, failed⟩
  · exact absurd ⟨m, found⟩ none

/-- Generated alone, a connector leaves everything but its own places as it was, apart from
directories on the way to them. -/
theorem alone_touches (plain : start.Plain) (isName : IsEntryName c.code) (output : String)
    (formatter : Formatter) :
    (c.alone start output formatter).fs.Plain ∧ (c.alone start output formatter).fs.here = start.here
      ∧ (∀ p, start.itemAt p = some .dir → (c.alone start output formatter).fs.itemAt p = some .dir)
      ∧ ∀ p, p ∉ c.places start output →
        (c.alone start output formatter).fs.itemAt p = start.itemAt p
          ∨ start.itemAt p = none ∧ (c.alone start output formatter).fs.itemAt p = some .dir
            ∧ OnWay (start.startOf output) (Path.components output) p := by
  have noSlash : '/' ∉ (c.call formatter).code.toList := isName.noSlash
  obtain ⟨plainAfter, here, dirs, touches⟩ := Call.run_touches plain noSlash output
  refine ⟨plainAfter, here, dirs, fun p outside => touches p (fun isTarget => ?_) fun isDraft => ?_⟩
  · exact outside (isTarget ▸ place_mem_places isName List.mem_cons_self)
  · exact outside (isDraft ▸ place_mem_places isName (List.mem_cons_of_mem _ List.mem_cons_self))

end

end Connector

/-! ## What several connectors leave -/

/-- Connectors that were found and are told apart by kind and code. -/
structure Roster (start : FileSystem) (backend : String) (cs : List Connector) : Prop where
  plain : start.Plain
  found : ∀ c ∈ cs, start.Found backend c
  distinct : ∀ c ∈ cs, ∀ d ∈ cs, c.key = d.key → c = d

/-- What is there after some connectors: at each place what is there when only one of them is generated
that has a model, unless the place belongs to another one that has. -/
structure Joined (start : FileSystem) (output : String) (formatter : Formatter) (done : List Connector)
    (fs : FileSystem) : Prop where
  plain : fs.Plain
  here : fs.here = start.here
  idle : (∀ c ∈ done, ¬ c.Emits start) → fs = start
  itemAt : ∀ c ∈ done, c.Emits start → ∀ p,
    (∀ d ∈ done, d.Emits start → d ≠ c → p ∉ d.places start output) →
      fs.itemAt p = (c.alone start output formatter).fs.itemAt p

section

variable {start fs fs' : FileSystem} {output backend : String} {formatter : Formatter}
  {done others : List Connector} {c : Connector} {p : List String}

theorem Roster.mono (roster : Roster start backend others) (isPart : ∀ c ∈ done, c ∈ others) :
    Roster start backend done :=
  ⟨roster.plain, fun c member => roster.found c (isPart c member),
    fun c inC d inD => roster.distinct c (isPart c inC) d (isPart d inD)⟩

theorem Roster.apart (roster : Roster start backend done) (member : c ∈ done) {d : Connector}
    (other : d ∈ done) (different : d ≠ c) (mine : p ∈ c.places start output) :
    p ∉ d.places start output :=
  Connector.places_apart (fun same => different (roster.distinct c member d other same).symm) mine

/-- Each place can be asked of one connector. -/
theorem Roster.owner (roster : Roster start backend done) (emitting : ∃ c ∈ done, c.Emits start)
    (output : String) (p : List String) :
    ∃ c ∈ done, c.Emits start
      ∧ ∀ d ∈ done, d.Emits start → d ≠ c → p ∉ d.places start output := by
  by_cases owned : ∃ c ∈ done, c.Emits start ∧ p ∈ c.places start output
  · obtain ⟨c, member, emits, mine⟩ := owned
    exact ⟨c, member, emits, fun d other _ different => roster.apart member other different mine⟩
  · obtain ⟨c, member, emits⟩ := emitting
    exact ⟨c, member, emits, fun d other emitsToo _ its => owned ⟨d, other, emitsToo, its⟩⟩

theorem Joined.nil (plain : start.Plain) : Joined start output formatter [] start :=
  ⟨plain, rfl, fun _ => rfl, fun _ member => absurd member (List.not_mem_nil)⟩

theorem Joined.source (joined : Joined start output formatter done fs)
    (roster : Roster start backend done) (p : List String) :
    fs.itemAt p = start.itemAt p
      ∨ ∃ c ∈ done, fs.itemAt p = (c.alone start output formatter).fs.itemAt p := by
  by_cases emitting : ∃ c ∈ done, c.Emits start
  · obtain ⟨c, member, emits, alone⟩ := roster.owner emitting output p
    exact Or.inr ⟨c, member, joined.itemAt c member emits p alone⟩
  · refine Or.inl ?_
    rw [joined.idle fun c member emits => emitting ⟨c, member, emits⟩]

theorem Joined.dirs (joined : Joined start output formatter done fs)
    (roster : Roster start backend done) (isDir : start.itemAt p = some .dir) :
    fs.itemAt p = some .dir := by
  rcases joined.source roster p with same | ⟨c, member, same⟩
  · rw [same, isDir]
  · rw [same]
    exact (c.alone_touches roster.plain (roster.found c member).isName output formatter).2.2.1 p isDir

/-- Documents are nobody's target or draft. -/
theorem Joined.document (joined : Joined start output formatter done fs)
    (roster : Roster start backend done) (present : start.itemAt p ≠ none)
    (isDocument : p.getLast? = some Path.documentName) : fs.itemAt p = start.itemAt p := by
  rcases joined.source roster p with same | ⟨c, member, same⟩
  · exact same
  · rw [same]
    have outside : p ∉ c.places start output := by
      -- a file of a connector would have to be named like a document
      intro its
      obtain ⟨name, inNames, rfl⟩ := List.mem_map.mp its
      have equal : name = Path.documentName := by simpa using isDocument
      exact Path.documentName_notMem_fileNames (equal ▸ inNames)
    have touches :=
      (c.alone_touches roster.plain (roster.found c member).isName output formatter).2.2.2 p outside
    exact touches.resolve_right fun new => present new.1

/-- So every connector has the model that it has at the start. -/
theorem Joined.model (joined : Joined start output formatter done fs)
    (roster : Roster start backend done) (found : start.Found backend c) :
    (c.model fs).toOption = (c.model start).toOption := by
  obtain ⟨bytes, document⟩ := found.document
  have read := found.load_eq roster.plain joined.plain joined.here (fun _ => joined.dirs roster)
    (joined.document roster (by rw [document]; exact Option.some_ne_none _) (by simp))
  rw [Connector.model, Connector.model, toOption_bind, toOption_bind, read]

/-! ## One more connector -/

theorem Joined.add_idle (joined : Joined start output formatter done fs) (idle : ¬ c.Emits start) :
    Joined start output formatter (done ++ [c]) fs := by
  have inDone {d : Connector} (member : d ∈ done ++ [c]) (emits : d.Emits start) : d ∈ done := by
    rcases List.mem_append.mp member with old | new
    · exact old
    · exact absurd (List.mem_singleton.mp new ▸ emits) idle
  refine ⟨joined.plain, joined.here, fun none => joined.idle fun d old => none d ?_, ?_⟩
  · exact List.mem_append_left _ old
  · exact fun d member emits p others => joined.itemAt d (inDone member emits) emits p
      fun d' old => others d' (List.mem_append_left _ old)

theorem Joined.add_first (plain : start.Plain) (isName : IsEntryName c.code)
    (none : ∀ d ∈ done, ¬ d.Emits start) (emits : c.Emits start) :
    Joined start output formatter (done ++ [c]) (c.alone start output formatter).fs := by
  obtain ⟨plainAfter, here, _⟩ := c.alone_touches plain isName output formatter
  refine ⟨plainAfter, here, fun idle => ?_, fun d member emitsToo p _ => ?_⟩
  · exact absurd emits (idle c (List.mem_append_right _ (List.mem_singleton_self c)))
  · rcases List.mem_append.mp member with old | new
    · exact absurd emitsToo (none d old)
    · rw [List.mem_singleton.mp new]

/-- Where the directory cannot be made, all that has a model leaves the same. -/
theorem Joined.eq_made (joined : Joined start output formatter done fs)
    (roster : Roster start backend done) (emitting : ∃ d ∈ done, d.Emits start) {made : FileSystem}
    (plain : made.Plain) (here : made.here = start.here) {e : FileError}
    (failed : start.createDirs output = (made, .error e)) : fs = made := by
  refine joined.plain.ext plain (joined.here.trans here.symm) fun p => ?_
  obtain ⟨d, member, ⟨m, modeled⟩, others⟩ := roster.owner emitting output p
  rw [joined.itemAt d member ⟨m, modeled⟩ p others, Connector.alone,
    (Connector.run_of_model modeled output formatter).2.2.1, (m.emit_of_unmade formatter failed).1]

theorem Joined.add_unmade (joined : Joined start output formatter done fs)
    (roster : Roster start backend done) (emitting : ∃ d ∈ done, d.Emits start) {made : FileSystem}
    (plain : made.Plain) (here : made.here = start.here) {e e' : FileError}
    (failed : start.createDirs output = (made, .error e))
    (again : made.createDirs output = (made, .error e')) {m m' : Model}
    (modeled : c.model start = .ok m) (modeledNow : c.model fs = .ok m') :
    Joined start output formatter (done ++ [c]) ((c.call formatter).run output fs).fs
      ∧ ((c.call formatter).run output fs).result.toOption
        = (c.alone start output formatter).result.toOption := by
  have unmade {d : Connector} {m : Model} (modeled : d.model start = .ok m) :
      (d.alone start output formatter).fs = made
        ∧ (d.alone start output formatter).result.toOption = none := by
    obtain ⟨_, _, same, result⟩ := Connector.run_of_model modeled output formatter
    obtain ⟨left, error⟩ := m.emit_of_unmade formatter failed
    exact ⟨same.trans left, by rw [Connector.alone, result, error]; rfl⟩
  have same := joined.eq_made roster emitting plain here failed
  obtain ⟨_, _, sameNow, resultNow⟩ := Connector.run_of_model modeledNow output formatter
  have failedNow : fs.createDirs output = (made, .error e') := by rw [same, again]
  obtain ⟨left, error⟩ := m'.emit_of_unmade formatter failedNow
  have stays : ((c.call formatter).run output fs).fs = made := sameNow.trans left
  rw [stays, resultNow, error, (unmade modeled).2]
  refine ⟨⟨plain, here, fun idle => ?_, fun d _ ⟨m, modeled⟩ p _ => ?_⟩, rfl⟩
  · exact absurd ⟨m, modeled⟩ (idle c (List.mem_append_right _ (List.mem_singleton_self c)))
  · rw [(unmade modeled).1]

section

variable {made : FileSystem} {m : Model} (joined : Joined start output formatter done fs)
  (roster : Roster start backend (done ++ [c])) (new : c ∉ done)
  (emitting : ∃ d ∈ done, d.Emits start) (dir : Made start made output) (here : made.here = start.here)

include joined roster emitting dir

/-- All directories are still there, so the one for the files is not made again. -/
theorem Joined.made_now (here : made.here = start.here) :
    Made fs fs output ∧ ∀ p, made.itemAt p = some .dir → fs.itemAt p = some .dir := by
  have before := roster.mono fun d old => List.mem_append_left [c] old
  have dirs : ∀ p, made.itemAt p = some .dir → fs.itemAt p = some .dir := by
    intro p isDir
    obtain ⟨d, member, ⟨m, modeled⟩, others⟩ := before.owner emitting output p
    rw [joined.itemAt d member ⟨m, modeled⟩ p others]
    have isName := (before.found d member).isName
    exact (Connector.run_replaced modeled dir isName formatter).1.directories isDir
  have reaches := dir.reaches.mono (joined.here.trans here.symm) dirs
  exact ⟨⟨joined.plain, reaches, createDirs_of_made dir.created joined.plain reaches⟩, dirs⟩

include here

/-- What belongs to nobody before is as it was when the directory was made. -/
theorem Joined.itemAt_made
    (outside : ∀ d ∈ done, d.Emits start → p ∉ d.places start output) :
    fs.itemAt p = made.itemAt p := by
  obtain ⟨d, member, m, modeled⟩ := emitting
  rw [joined.itemAt d member ⟨m, modeled⟩ p fun d' old emits _ => outside d' old emits]
  have isName := (roster.found d (List.mem_append_left _ member)).isName
  exact Connector.itemAt_run modeled dir here isName formatter (outside d member ⟨m, modeled⟩)

include new

/-- So are the places of one more connector. -/
theorem Joined.itemAt_own {name : String} (inNames : name ∈ Path.fileNames c.kind c.code) :
    fs.itemAt (made.place output ++ [name]) = made.itemAt (made.place output ++ [name]) := by
  refine joined.itemAt_made roster emitting dir here fun d old _ => ?_
  have inAll : c ∈ done ++ [c] := List.mem_append_right _ (List.mem_singleton_self c)
  exact roster.apart inAll (List.mem_append_left _ old) (fun same => new (same ▸ old))
    (place_eq_of_here here output ▸ Connector.mem_places inNames)

theorem Joined.add_made (modeled : c.model start = .ok m) (modeledNow : c.model fs = .ok m) :
    Joined start output formatter (done ++ [c]) ((c.call formatter).run output fs).fs := by
  have inAll : c ∈ done ++ [c] := List.mem_append_right _ (List.mem_singleton_self c)
  have isName := (roster.found c inAll).isName
  have now := (joined.made_now roster emitting dir here).1
  have replaced := (Connector.run_replaced modeled dir isName formatter).1
  have replacedNow := (Connector.run_replaced modeledNow now isName formatter).1
  refine ⟨replacedNow.plain, replacedNow.here.trans joined.here, fun idle => ?_,
    fun d member emits p others => ?_⟩
  · exact absurd ⟨m, modeled⟩ (idle c inAll)
  -- for the new one the others' places are as the directory was made, for an earlier one the new files
  -- are elsewhere
  by_cases last : d = c
  · subst last
    have own {name : String} (inNames : name ∈ Path.fileNames d.kind d.code) :=
      joined.itemAt_own roster new emitting dir here inNames
    obtain ⟨isFile, isStale⟩ := Connector.mem_fileNames_replacement modeled formatter
    refine replaced.congr replacedNow (joined.here.trans here.symm) (own isFile) (own isStale)
      (joined.itemAt_made roster emitting dir here fun d' old emits' => ?_)
    exact others d' (List.mem_append_left _ old) emits' fun same => new (same ▸ old)
  · have old : d ∈ done := (List.mem_append.mp member).resolve_right
      fun single => last (List.mem_singleton.mp single)
    rw [Connector.itemAt_run modeledNow now joined.here isName formatter
      (others c inAll ⟨m, modeled⟩ (Ne.symm last))]
    exact joined.itemAt d old emits p fun d' old' => others d' (List.mem_append_left _ old')

/-- What is blocked alone is blocked after others, and what is not is not. -/
theorem Joined.result_made (modeled : c.model start = .ok m) (modeledNow : c.model fs = .ok m) :
    ((c.call formatter).run output fs).result.toOption
      = (c.alone start output formatter).result.toOption := by
  have inAll : c ∈ done ++ [c] := List.mem_append_right _ (List.mem_singleton_self c)
  have isName := (roster.found c inAll).isName
  have now := (joined.made_now roster emitting dir here).1
  have blocked {name : String} (inNames : name ∈ Path.fileNames c.kind c.code) :
      fs.Blocked output name ↔ made.Blocked output name :=
    blocked_congr (joined.here.trans here.symm) (joined.itemAt_own roster new emitting dir here inNames)
  obtain ⟨isFile, isStale⟩ := Connector.mem_fileNames_replacement modeled formatter
  have outcomeNow := (Connector.run_replaced modeledNow now isName formatter).2
  rw [blocked isFile, blocked isStale] at outcomeNow
  rcases (Connector.run_replaced modeled dir isName formatter).2 with
    ⟨blocked, failed⟩ | ⟨free, freeStale, answer⟩
  · rcases outcomeNow with ⟨_, failedNow⟩ | ⟨free, freeStale, _⟩
    · exact failedNow.trans failed.symm
    · exact absurd blocked (not_or.mpr ⟨free, freeStale⟩)
  · rcases outcomeNow with ⟨blocked, _⟩ | ⟨_, _, answerNow⟩
    · exact absurd blocked (not_or.mpr ⟨free, freeStale⟩)
    · rw [answerNow, Connector.alone, answer]

end

/-- One more connector leaves what it leaves alone, and its result is the one that it has alone, but
for the error when it fails. -/
theorem Joined.step (joined : Joined start output formatter done fs)
    (roster : Roster start backend (done ++ [c])) (new : c ∉ done) :
    Joined start output formatter (done ++ [c]) ((c.call formatter).run output fs).fs
      ∧ ((c.call formatter).run output fs).result.toOption
        = (c.alone start output formatter).result.toOption := by
  have inAll : c ∈ done ++ [c] := List.mem_append_right _ (List.mem_singleton_self c)
  have before := roster.mono fun d old => List.mem_append_left [c] old
  have sameModel := joined.model before (roster.found c inAll)
  cases modeled : c.model start with
  | error problem =>
    have idle : ¬ c.Emits start := by
      rintro ⟨m, found⟩
      cases modeled.symm.trans found
    have idleNow : ¬ c.Emits fs := by
      rintro ⟨m, found⟩
      rw [modeled, found] at sameModel
      contradiction
    obtain ⟨same, _, failedNow⟩ := Connector.run_of_not_emits idleNow output formatter
    obtain ⟨_, _, failed⟩ := Connector.run_of_not_emits idle output formatter
    rw [same, failedNow, Connector.alone, failed]
    exact ⟨joined.add_idle idle, rfl⟩
  | ok m =>
    have modeledNow : c.model fs = .ok m := by
      cases found : c.model fs with
      | error problem =>
        rw [modeled, found] at sameModel
        contradiction
      | ok m' =>
        rw [modeled, found] at sameModel
        rw [Option.some.inj sameModel]
    by_cases emitting : ∃ d ∈ done, d.Emits start
    · obtain ⟨made, grown, ⟨created, reaches⟩ | ⟨⟨e, failed⟩, e', again⟩⟩ :=
        createDirs_cases roster.plain output
      · have dir : Made start made output := ⟨grown.plain, reaches, created⟩
        exact ⟨joined.add_made roster new emitting dir grown.here modeled modeledNow,
          joined.result_made roster new emitting dir grown.here modeled modeledNow⟩
      · exact joined.add_unmade before emitting grown.plain grown.here failed again modeled modeledNow
    · -- nothing was written yet, so it starts where it starts alone
      have none : ∀ d ∈ done, ¬ d.Emits start := fun d old emits => emitting ⟨d, old, emits⟩
      have first := joined.idle none
      subst first
      exact ⟨.add_first roster.plain (roster.found c inAll).isName none ⟨m, modeled⟩, rfl⟩

/-! ## All of them -/

/-- What is there does not depend on the order. -/
theorem Joined.unique (joined : Joined start output formatter done fs)
    (joined' : Joined start output formatter others fs') (roster : Roster start backend done)
    (same : ∀ c, c ∈ done ↔ c ∈ others) : fs = fs' := by
  by_cases emitting : ∃ c ∈ done, c.Emits start
  · refine joined.plain.ext joined'.plain (joined.here.trans joined'.here.symm) fun p => ?_
    obtain ⟨c, member, emits, apart⟩ := roster.owner emitting output p
    rw [joined.itemAt c member emits p apart,
      joined'.itemAt c ((same c).mp member) emits p fun d other => apart d ((same d).mpr other)]
  · have none : ∀ c ∈ done, ¬ c.Emits start := fun c member emits => emitting ⟨c, member, emits⟩
    rw [joined.idle none, joined'.idle fun c member => none c ((same c).mpr member)]

/-- At its places, and below them, a connector has what it has alone. Where it has no model and the way
to the directory goes up again, there may be a directory on that way. -/
theorem Joined.files (joined : Joined start output formatter done fs)
    (roster : Roster start backend done) (member : c ∈ done) {place : List String}
    (mine : place ∈ c.places start output) (below : place <+: p) :
    fs.itemAt p = (c.alone start output formatter).fs.itemAt p
      ∨ (∃ problem, (c.alone start output formatter).result = .error (.document problem))
        ∧ ".." ∈ Path.components output ∧ (c.alone start output formatter).fs.itemAt p = none
        ∧ fs.itemAt p = some .dir
        ∧ OnWay (start.startOf output) (Path.components output) p := by
  have apart (d : Connector) (other : d ∈ done) (different : d ≠ c) : p ∉ d.places start output := by
    intro its
    obtain ⟨name, _, rfl⟩ := List.mem_map.mp mine
    obtain ⟨name', inNames, rfl⟩ := List.mem_map.mp its
    have same := below.eq_of_length (by simp)
    exact roster.apart member other different mine (same ▸ its)
  by_cases emits : c.Emits start
  · exact Or.inl (joined.itemAt c member emits p fun d other _ different => apart d other different)
  obtain ⟨same, failed⟩ := Connector.run_of_not_emits emits output formatter
  rw [← Connector.alone] at same failed
  by_cases emitting : ∃ d ∈ done, d.Emits start
  case neg =>
    refine Or.inl ?_
    rw [joined.idle fun d other emitsToo => emitting ⟨d, other, emitsToo⟩, same]
  obtain ⟨d, other, emitsToo, rest⟩ := roster.owner emitting output p
  have different : d ≠ c := fun equal => emits (equal ▸ emitsToo)
  have touches :=
    (d.alone_touches roster.plain (roster.found d other).isName output formatter).2.2.2 p
      (apart d other different)
  rw [← joined.itemAt d other emitsToo p rest] at touches
  rw [same]
  refine touches.imp_right fun ⟨nothing, isDir, onWay⟩ => ⟨failed, ?_, nothing, isDir, onWay⟩
  -- without going up, all places on the way are above the files
  by_contra noUp
  obtain ⟨name, _, rfl⟩ := List.mem_map.mp mine
  have short := (below.trans (onWay.prefix_of_noUp noUp)).length_le
  rw [← FileSystem.place, List.length_append, List.length_singleton] at short
  omega

end

end ConnectorSchema
