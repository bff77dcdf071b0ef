import Mathlib.Data.List.Nodup
import ConnectorSchema.CommandLine.Run
import ConnectorSchema.Proofs.JoinedRuns

/-!
A run over all connectors of a backend, with any formatter. Each of them is attempted once, in whatever
order it fares as it does alone, and the run counts those that fail (`Command.runGenerate_independent`).
-/

namespace ConnectorSchema.CommandLine

open FileSystem

section

variable (output : String) (formatter : Formatter)

/-- What comes of a connector in some state of the files. -/
def attempt (fs : FileSystem) (c : Connector) : Generation :=
  fs.generateFile c.path c.kind c.code output formatter

/-- The file system after attempts at connectors, one after the other. -/
def attempted (fs : FileSystem) (cs : List Connector) : FileSystem :=
  cs.foldl (fun fs c => (attempt output formatter fs c).fs) fs

/-- The attempts themselves. -/
def attempts : (fs : FileSystem) → List Connector → List (Connector × Generation)
  | _, [] => []
  | fs, c :: rest =>
    (c, attempt output formatter fs c) :: attempts (attempt output formatter fs c).fs rest

end

/-- The report on a connector once its attempt is over. -/
def outcome (c : Connector) : Except GenerationError GeneratedFile → Event
  | .ok file => .succeeded file.path file.attributeCount file.size file.hash
  | .error e =>
    .failed (": ".intercalate (("Failed to generate " ++ c.kind.name ++ " " ++ c.code) :: e.causes))

/-- The reports on attempts: for each of them what happens on the way, and then its outcome. -/
def reportsOn (tried : List (Connector × Generation)) : List Event :=
  tried.flatMap fun a => a.2.events ++ [outcome a.1 a.2.result]

/-- The connectors among those attempted for which there is no file. -/
def failing (tried : List (Connector × Generation)) : List Connector :=
  (tried.filter fun a => !a.2.result.isOk).map Prod.fst

section

variable {output backend : String} {formatter : Formatter} {start fs : FileSystem}

theorem Tally.add_eq (t : Tally) (c : Connector) :
    t.add (fun _ => formatter) output c
      = ⟨(attempt output formatter t.fs c).fs,
        t.events ++ (attempt output formatter t.fs c).events
          ++ [outcome c (attempt output formatter t.fs c).result],
        t.failures + if (attempt output formatter t.fs c).result.isOk then 0 else 1⟩ := by
  rw [Tally.add, attempt]
  cases (t.fs.generateFile c.path c.kind c.code output formatter).result <;> rfl

/-- The tally after attempts at connectors: where they lead, all their reports, and how many failed. -/
theorem Tally.foldl_add (t : Tally) (cs : List Connector) :
    cs.foldl (Tally.add (fun _ => formatter) output) t
      = ⟨attempted output formatter t.fs cs,
        t.events ++ reportsOn (attempts output formatter t.fs cs),
        t.failures + (failing (attempts output formatter t.fs cs)).length⟩ := by
  induction cs generalizing t with
  | nil => simp [attempted, attempts, reportsOn, failing]
  | cons c rest ih =>
    rw [List.foldl_cons, ih, Tally.add_eq]
    congr 1
    · simp [attempts, reportsOn]
    · cases succeeded : (attempt output formatter t.fs c).result.isOk
      · simp [attempts, failing, succeeded, Nat.add_assoc, Nat.add_comm]
      · simp [attempts, failing, succeeded]

theorem map_fst_attempts (fs : FileSystem) (cs : List Connector) :
    (attempts output formatter fs cs).map Prod.fst = cs := by
  induction cs generalizing fs with
  | nil => rfl
  | cons c rest ih => rw [attempts, List.map_cons, ih]

/-- Attempts at connectors that were found, after others: the files are joined, and each result is the
one that the connector has alone, but for the error when it fails. By induction on those to come. -/
theorem attempts_joined (output : String) (formatter : Formatter) (done rest : List Connector)
    (roster : Roster start backend (done ++ rest)) (nodup : (done ++ rest).Nodup)
    (joined : Joined start output formatter done (attempted output formatter start done)) :
    Joined start output formatter (done ++ rest)
        (attempted output formatter start (done ++ rest))
      ∧ ∀ a ∈ attempts output formatter (attempted output formatter start done) rest,
        a.2.result.toOption = (attempt output formatter start a.1).result.toOption := by
  induction rest generalizing done with
  | nil => exact ⟨by rwa [List.append_nil], fun _ member => absurd member List.not_mem_nil⟩
  | cons c rest ih =>
    have regroup : done ++ c :: rest = (done ++ [c]) ++ rest := by simp
    rw [regroup] at roster nodup ⊢
    have new : c ∉ done := by
      have apart := (List.nodup_append.mp nodup).1
      exact fun old => (List.nodup_append.mp apart).2.2 c old c (List.mem_singleton_self c) rfl
    have run : attempt output formatter (attempted output formatter start done) c
        = (c.call formatter).run output (attempted output formatter start done) := rfl
    obtain ⟨next, result⟩ := joined.step (roster.mono fun d => List.mem_append_left _) new
    have stepped : attempted output formatter start (done ++ [c])
        = (attempt output formatter (attempted output formatter start done) c).fs := by
      rw [attempted, List.foldl_append]
      rfl
    rw [← run, ← stepped] at next
    obtain ⟨whole, results⟩ := ih (done ++ [c]) roster nodup next
    refine ⟨whole, fun a member => ?_⟩
    rcases List.mem_cons.mp member with rfl | later
    · rw [run, result]
      rfl
    · exact results a (stepped ▸ later)

theorem isOk_eq_isSome {ε α : Type} (result : Except ε α) : result.isOk = result.toOption.isSome := by
  cases result <;> rfl

theorem failing_eq_filter {tried : List (Connector × Generation)} {alone : Connector → Generation}
    (same : ∀ a ∈ tried, a.2.result.toOption = (alone a.1).result.toOption) :
    failing tried = (tried.map Prod.fst).filter fun c => !(alone c).result.isOk := by
  rw [failing, List.filter_map]
  refine congrArg _ (List.filter_congr fun a member => ?_)
  rw [Function.comp_apply, isOk_eq_isSome, isOk_eq_isSome, same a member]

theorem Selection.nodup_kinds (selection : Selection) : selection.kinds.Nodup := by
  cases selection with
  | only kind => exact List.nodup_singleton kind
  | all => decide

/-- The connectors that a run is about are a roster without repetitions. -/
theorem roster_connectorsOf (plain : start.Plain) (backend : String) (selection : Selection) :
    Roster start backend (start.connectorsOf backend selection.kinds)
      ∧ (start.connectorsOf backend selection.kinds).Nodup := by
  have keys : ((start.connectorsOf backend selection.kinds).map Connector.key).Nodup :=
    List.pairwise_map.mpr (connectorsOf_distinct plain.root.onDisk backend selection.nodup_kinds)
  exact ⟨⟨plain, fun _ => found_of_mem_connectorsOf plain, fun _ inC _ inD =>
    List.inj_on_of_nodup_map keys inC inD⟩, keys.of_map⟩

/-- What a run over connectors ends with. -/
theorem Command.runGenerate_eq (start : FileSystem) (backend output : String)
    (selection : Selection) (formatter : Formatter) :
    let found := start.connectorsOf backend selection.kinds
    let ending := runGenerate (fun _ => formatter) start backend output selection
    let opening := .discovering backend :: selection.kinds.map (start.discoveryEvent backend)
    let broken := failing (attempts output formatter start found)
    ending.fs = attempted output formatter start found
      ∧ (ending.status = 0 ↔ broken = [])
      ∧ (found = [] → ending.reports = opening ++ [.nothingFound backend])
      ∧ (found ≠ [] → ending.reports = opening ++ reportsOn (attempts output formatter start found)
        ++ [.summary (found.length - broken.length) found.length output]) := by
  intro found ending opening broken
  have unfolded : ending = runGenerate (fun _ => formatter) start backend output selection := rfl
  by_cases empty : found = []
  · have noFailure : broken = [] := by simp [broken, empty, attempts, failing]
    rw [runGenerate, if_pos empty] at unfolded
    rw [unfolded, empty]
    exact ⟨rfl, iff_of_true rfl noFailure, fun _ => rfl, fun some => absurd rfl some⟩
  rw [runGenerate, if_neg empty] at unfolded
  simp only [Tally.foldl_add, Nat.zero_add, List.length_eq_zero_iff] at unfolded
  by_cases none : broken = []
  · rw [if_pos none] at unfolded
    rw [unfolded]
    exact ⟨rfl, iff_of_true rfl none, fun nothing => absurd nothing empty, fun _ => rfl⟩
  · rw [if_neg none] at unfolded
    rw [unfolded]
    exact ⟨rfl, iff_of_false Nat.one_ne_zero none, fun nothing => absurd nothing empty, fun _ => rfl⟩

end

/-! ## Runs as a whole -/

/-- A backend with one connector that has a document and one whose document is empty. -/
def halfBroken : FileSystem :=
  let plugin (document : String) : Tree :=
    .dir [("configuration.latest.json", .file (Text.bytesOf document))]
  let plugins : Tree := .dir [
    ("a", plugin "\x7b\"display_name\":\"A\",\"config\":[]\x7d"), ("b", plugin "")]
  ⟨.dir [("app", .dir [("sources", .dir [("plugins", plugins)])])], []⟩

def intact : Connector := ⟨.source, "a", "./app/sources/plugins/a/configuration.latest.json"⟩

def emptied : Connector := ⟨.source, "b", "./app/sources/plugins/b/configuration.latest.json"⟩

/-- A formatter that puts a line in front of each text. -/
def heading : Formatter :=
  ⟨"heading", some ("heading", ["-w"]), fun source => .ok ("// formatted\n" ++ source)⟩

theorem halfBroken_plain : halfBroken.Plain := by
  have plugin (bytes : List UInt8) : (Tree.dir [("configuration.latest.json", .file bytes)]).Plain :=
    .dir (by simp only [List.forall_mem_singleton]; decide) (by simpa using .file bytes)
      (List.pairwise_singleton _ _)
  have single {name : String} (isName : IsEntryName name) {t : Tree} (plain : t.Plain) :
      (Tree.dir [(name, t)]).Plain :=
    .dir (by simpa using isName) (by simpa using plain) (List.pairwise_singleton _ _)
  refine ⟨single (by decide) (single (by decide) (single (by decide) (.dir ?_ ?_ ?_))), rfl⟩
  · simp only [List.forall_mem_cons]
    decide
  · simp only [List.forall_mem_cons, List.not_mem_nil, false_implies, implies_true, and_true]
    exact ⟨plugin _, plugin _⟩
  · simp only [List.pairwise_cons, List.forall_mem_cons]
    decide

/-- Connectors of one run do not affect each other. Whatever happens to the others and whichever way
they are put in order, each one fails or not as it does alone, and its files are what they are alone;
only where it has no model and the output path goes up again, there may be a directory that others
needed. -/
theorem Command.runGenerate_independent {start : FileSystem} (plain : start.Plain)
    (backend output : String) (selection : Selection) (formatter : Formatter) :
    let found := start.connectorsOf backend selection.kinds
    let ending := runGenerate (fun _ => formatter) start backend output selection
    let opening := .discovering backend :: selection.kinds.map (start.discoveryEvent backend)
    let alone := attempt output formatter start
    let tried := attempts output formatter start found
    let broken := found.filter fun c => !(alone c).result.isOk
    -- each connector is attempted once and reported on, and then how many went well
    (found.Nodup ∧ tried.map Prod.fst = found ∧ failing tried = broken
        ∧ (found = [] → ending.reports = opening ++ [.nothingFound backend])
        ∧ (found ≠ [] → ∃ written, written + broken.length = found.length
          ∧ ending.reports = opening ++ reportsOn tried ++ [.summary written found.length output]))
      -- in any order the same ones fail and the same files are there
      ∧ (∀ order, order.Perm found →
        attempted output formatter start order = ending.fs
          ∧ (failing (attempts output formatter start order)).Perm broken)
      -- the two files of each connector are what they are alone
      ∧ (∀ c ∈ found, ∀ path ∈ [Path.output output c.kind c.code,
          Path.draft (Path.output output c.kind c.code)], ∀ p, start.place path <+: p →
        ending.fs.itemAt p = (alone c).fs.itemAt p
          ∨ (∃ problem, (alone c).result = .error (.document problem))
            ∧ ".." ∈ Path.components output ∧ (alone c).fs.itemAt p = none
            ∧ ending.fs.itemAt p = some .dir
            ∧ OnWay (start.startOf output) (Path.components output) p)
      ∧ (ending.status = 0 ↔ broken = []) := by
  intro found ending opening alone tried broken
  obtain ⟨roster, nodup⟩ := roster_connectorsOf plain backend selection
  obtain ⟨left, status, nothing, reports⟩ :=
    runGenerate_eq start backend output selection formatter
  have joined (order : List Connector) (perm : order.Perm found) :=
    attempts_joined output formatter [] order (roster.mono fun _ => perm.mem_iff.mp)
      (perm.nodup_iff.mpr nodup) (.nil plain)
  have failed (order : List Connector) (perm : order.Perm found) :
      failing (attempts output formatter start order)
        = order.filter fun c => !(alone c).result.isOk := by
    have same := failing_eq_filter (joined order perm).2
    rwa [map_fst_attempts] at same
  have here := failed found (.refl _)
  rw [here] at status reports
  refine ⟨⟨nodup, map_fst_attempts start found, here, nothing,
    fun some => ⟨_, ?_, reports some⟩⟩, ?_, ?_, status⟩
  · exact Nat.sub_add_cancel (List.length_filter_le _ _)
  · intro order perm
    refine ⟨?_, ?_⟩
    · rw [left]
      exact (joined order perm).1.unique (joined found (.refl _)).1
        (roster.mono fun _ => perm.mem_iff.mp) fun _ => perm.mem_iff
    · rw [failed order perm]
      exact perm.filter _
  · intro c member path isFile p below
    have isName := (roster.found c member).isName
    rw [left]
    exact (joined found (.refl _)).1.files roster member (Connector.place_mem_places isName isFile)
      below

/-- The connector with the empty document fails, and does not keep the other one from being generated,
whichever comes first. -/
theorem Command.runGenerate_independent_halfBroken :
    halfBroken.Plain
      ∧ attempted "out" heading halfBroken [emptied, intact]
        = (runGenerate (fun _ => heading) halfBroken "." "out" .all).fs
      ∧ (runGenerate (fun _ => heading) halfBroken "." "out" .all).status ≠ 0
      ∧ ∃ others, (runGenerate (fun _ => heading) halfBroken "." "out" .all).reports
        = others ++ [.summary 1 2 "out"] := by
  have found : halfBroken.connectorsOf "." Selection.all.kinds = [intact, emptied] := rfl
  have broken : [intact, emptied].filter
      (fun c => !(attempt "out" heading halfBroken c).result.isOk) = [emptied] := by
    decide +kernel
  obtain ⟨⟨_, _, _, _, reported⟩, order, _, status⟩ :=
    runGenerate_independent halfBroken_plain "." "out" .all heading
  rw [found] at order status reported
  rw [broken] at status reported
  refine ⟨halfBroken_plain, (order _ (.swap intact emptied [])).1, fun succeeded => ?_, ?_⟩
  · exact List.cons_ne_nil _ _ (status.mp succeeded)
  · obtain ⟨written, balance, reports⟩ := reported (List.cons_ne_nil _ _)
    obtain rfl : written = 1 := Nat.add_right_cancel balance
    exact ⟨_, reports⟩

/-- On an output path that goes through its target and up again, the failing connector is left with a
directory that it does not have alone. -/
theorem Command.runGenerate_detour :
    let detour := "out/source_b.go/.."
    let ending := runGenerate (fun _ => heading) halfBroken "." detour (.only .source)
    halfBroken.Plain
      ∧ ¬ ∀ c ∈ halfBroken.connectorsOf "." [.source],
        ending.fs.itemAt (halfBroken.place (Path.output detour c.kind c.code))
          = (attempt detour heading halfBroken c).fs.itemAt
            (halfBroken.place (Path.output detour c.kind c.code)) := by
  refine ⟨halfBroken_plain, fun same => ?_⟩
  have found : emptied ∈ halfBroken.connectorsOf "." [.source] := by decide +kernel
  have together : (runGenerate (fun _ => heading) halfBroken "." "out/source_b.go/.."
      (.only .source)).fs.itemAt ["out", "source_b.go"] = some .dir := by decide +kernel
  have alone : (attempt "out/source_b.go/.." heading halfBroken emptied).fs.itemAt
      ["out", "source_b.go"] = none := by decide +kernel
  have place : halfBroken.place (Path.output "out/source_b.go/.." .source "b")
      = ["out", "source_b.go"] := by decide +kernel
  have equal := same emptied found
  simp only [emptied, place] at equal
  rw [together] at equal
  exact absurd (equal.trans alone) (Option.some_ne_none _)

end ConnectorSchema.CommandLine
