import Retag.Proofs.Batch.Protocol
import Retag.Proofs.Conversion.Effect
import Retag.Proofs.FileSystem.Directories

/-! The turns of a batch that nobody interferes with, and what they change. A turn changes at most one
entry, the one at its output's place, so the disk behind a batch is the disk it began on with one change
after another applied to it. Links can make it leave its temporary copy as well, where nothing stood; so
with links this is said of plain names and of what stood at the beginning only.
-/

set_option autoImplicit false

namespace Retag.Batch

open Function (update)

structure Turn where
  candidate : Candidate
  before : Disk
  outcome : Except Failure Converted
  after : Disk

def takeTurn (conversion : Conversion) (disk : Disk) (candidate : Candidate) : Turn :=
  let (outcome, world) := (conversion.run candidate).perform { disk }
  ⟨candidate, disk, outcome, world.disk⟩

def turnsOn (conversion : Conversion) (disk : Disk) : List Candidate → List Turn
  | [] => []
  | candidate :: rest =>
      let turn := takeTurn conversion disk candidate
      turn :: turnsOn conversion turn.after rest

def afterTurns (conversion : Conversion) (disk : Disk) (candidates : List Candidate) : Disk :=
  candidates.foldl (fun disk candidate => (takeTurn conversion disk candidate).after) disk

structure Change where
  location : Location
  entry? : Option Entry

/-- What a turn changed. One that converted its candidate put the source, as it was at that turn,
retagged at the output's place; one that did not may have removed what stood there. -/
def Turn.change? (conversion : Conversion) (turn : Turn) : Option Change :=
  match turn.before.place? (Bytes.ofText (conversion.outputPath turn.candidate)) with
  | none => none
  | some place =>
      match turn.outcome with
      | .ok _ => (turn.before.content? (Bytes.ofText (conversion.sourcePath turn.candidate))).map
          fun content => ⟨place, some (.file (Document.retag conversion.table conversion.lineEnding content).1)⟩
      | .error _ =>
          if turn.after.files.get? place = turn.before.files.get? place then none else some ⟨place, none⟩

def changed (view : Location → Option Entry) (changes : List Change) : Location → Option Entry :=
  changes.foldl (fun view change => update view change.location change.entry?) view

theorem changed_append (view : Location → Option Entry) (first second : List Change) :
    changed view (first ++ second) = changed (changed view first) second := List.foldl_append

theorem changed_apply (view : Location → Option Entry) (changes : List Change) (location : Location) :
    changed view changes location =
      match (changes.filter fun change => change.location = location).getLast? with
      | none => view location
      | some change => change.entry? := by
  induction changes generalizing view with
  | nil => rfl
  | cons change changes ih =>
    rw [changed, List.foldl_cons, ← changed, ih, List.filter_cons]
    -- A change at the location replaces what all earlier ones put there.
    by_cases here : change.location = location
    · simp only [here, decide_true, if_true, List.getLast?_cons]
      cases (changes.filter fun change => change.location = location).getLast? with
      | none => simp
      | some last => rfl
    · simp only [here, decide_false, Bool.false_eq_true, if_false, Function.update_of_ne (Ne.symm here)]

theorem changed_congr {first second : Location → Option Entry} {location : Location}
    (same : first location = second location) (changes : List Change) :
    changed first changes location = changed second changes location := by
  rw [changed_apply, changed_apply, same]

variable {conversion : Conversion}

/-- What comes of a turn: nothing, a previous output gone, or the output. -/
theorem takeTurn_cases (writes : conversion.dryRun = false) (disk : Disk) (candidate : Candidate) :
    (∃ failure, (takeTurn conversion disk candidate).outcome = .error failure ∧
        (takeTurn conversion disk candidate).change? conversion = none ∧
        Conversion.Drops disk (conversion.copyWay candidate) disk.files.get?
          (takeTurn conversion disk candidate).after) ∨
      (∃ failure place entry, (takeTurn conversion disk candidate).outcome = .error failure ∧
        disk.place? (Bytes.ofText (conversion.outputPath candidate)) = some place ∧
        disk.files.get? place = some entry ∧ entry ≠ .directory ∧
        (takeTurn conversion disk candidate).change? conversion = some ⟨place, none⟩ ∧
        Conversion.Drops disk (conversion.copyWay candidate) (update disk.files.get? place none)
          (takeTurn conversion disk candidate).after) ∨
      ∃ content place, disk.content? (Bytes.ofText (conversion.sourcePath candidate)) = some content ∧
        disk.place? (Bytes.ofText (conversion.outputPath candidate)) = some place ∧
        disk.files.get? place ≠ some .directory ∧
        (takeTurn conversion disk candidate).outcome =
          .ok ⟨candidate.name, conversion.outputPath candidate,
            (Document.retag conversion.table conversion.lineEnding content).2.lines,
            (Document.retag conversion.table conversion.lineEnding content).2.changedLines⟩ ∧
        (takeTurn conversion disk candidate).change? conversion =
          some ⟨place, some (.file (Document.retag conversion.table conversion.lineEnding content).1)⟩ ∧
        Conversion.Drops disk (conversion.copyWay candidate) (update disk.files.get? place
          (some (.file (Document.retag conversion.table conversion.lineEnding content).1)))
          (takeTurn conversion disk candidate).after := by
  cases performed : (conversion.run candidate).perform { disk } with
  | mk outcome world =>
    have taken : takeTurn conversion disk candidate = ⟨candidate, disk, outcome, world.disk⟩ := by
      rw [takeTurn, performed]
    rw [taken]
    rcases Conversion.run_effect writes performed with
      ⟨failure, view, rfl, cleared, drops⟩ |
        ⟨source, content, place, resolved, read, named, free, rfl, drops⟩
    · rcases cleared with rfl | ⟨place, entry, named, stands, other, rfl⟩
      · refine .inl ⟨failure, rfl, ?_, drops⟩
        rw [Turn.change?]
        split
        · rfl
        · next place named =>
          obtain ⟨name, directory, rfl, -⟩ := Disk.exists_of_place? named
          exact if_pos (drops.get?_plain name directory)
      · refine .inr (.inl ⟨failure, place, entry, rfl, named, stands, other, ?_, drops⟩)
        obtain ⟨name, directory, rfl, -⟩ := Disk.exists_of_place? named
        have gone := drops.get?_plain name directory
        rw [Function.update_self] at gone
        simp only [Turn.change?, named, gone, stands, reduceCtorEq, if_false]
    · have found := Disk.content?_eq_some_iff.2 ⟨source, resolved, read⟩
      refine .inr (.inr ⟨content, place, found, named, free, rfl, ?_, drops⟩)
      simp only [Turn.change?, named, found, Option.map_some]

theorem takeTurn_drops (writes : conversion.dryRun = false) (disk : Disk) (candidate : Candidate) :
    Conversion.Drops disk (conversion.copyWay candidate)
      (changed disk.files.get? ((takeTurn conversion disk candidate).change? conversion).toList)
      (takeTurn conversion disk candidate).after := by
  rcases takeTurn_cases writes disk candidate with
    ⟨failure, -, none_, drops⟩ | ⟨failure, place, entry, -, -, -, -, some_, drops⟩ |
      ⟨content, place, -, -, -, -, some_, drops⟩
  · rw [none_]
    exact drops
  · rw [some_]
    exact drops
  · rw [some_]
    exact drops

def changes (conversion : Conversion) (disk : Disk) (candidates : List Candidate) : List Change :=
  (turnsOn conversion disk candidates).filterMap (Turn.change? conversion)

theorem Run.adding_ok {State : Type} {run : Run State} {processed : List Converted}
    {skipped : List Skipped} {report : Report} (added : (run.adding processed skipped).outcome = .ok report) :
    ∃ later, run.outcome = .ok later ∧ report = ⟨processed ++ later.processed, skipped ++ later.skipped⟩ := by
  rw [Run.adding] at added
  cases reached : run.outcome with
  | error failure => rw [reached] at added; cases added
  | ok later => rw [reached] at added; cases added; exact ⟨later, rfl, rfl⟩

def Turn.converted? (turn : Turn) : Option Converted := turn.outcome.toOption

def Turn.failed? (turn : Turn) : Option String :=
  match turn.outcome with
  | .ok _ => none
  | .error _ => some turn.candidate.name

def Turn.skipped? (turn : Turn) : Option Skipped :=
  match turn.outcome with
  | .ok _ => none
  | .error failure => (skip turn.candidate failure).toOption.map Prod.fst

/-- With an observer that only watches, the turns are the run: its disk is the one that the last turn
left, and its report lists what came of each. -/
theorem convertAll_watch (conversion : Conversion) (disk : Disk) (index : Nat) (candidates : List Candidate) :
    (convertAll conversion watch () disk index candidates).disk = afterTurns conversion disk candidates ∧
      ∀ report, (convertAll conversion watch () disk index candidates).outcome = .ok report →
        report.processed = (turnsOn conversion disk candidates).filterMap Turn.converted? ∧
        report.skipped = (turnsOn conversion disk candidates).filterMap Turn.skipped? ∧
        report.skipped.map Skipped.name = (turnsOn conversion disk candidates).filterMap Turn.failed? := by
  induction candidates generalizing disk index with
  | nil => exact ⟨rfl, by rintro _ ⟨⟩; exact ⟨rfl, rfl, rfl⟩⟩
  | cons candidate rest ih =>
    -- Whatever comes of the turn, the rest go on from the disk that it left.
    obtain ⟨ends, reports⟩ := ih (takeTurn conversion disk candidate).after (index + 1)
    rcases convertAll_cons conversion watch () disk index candidate rest with
      ⟨file, world, performed, -, turn⟩ | ⟨failure, file, record, world, performed, skips, named, turn⟩
    · have taken : takeTurn conversion disk candidate = ⟨candidate, disk, .ok file, world.disk⟩ := by
        rw [takeTurn, performed]
      rw [taken] at ends reports
      rw [turn, turnsOn, taken, afterTurns, List.foldl_cons, ← afterTurns, taken]
      refine ⟨ends, fun report reported => ?_⟩
      obtain ⟨later, found, rfl⟩ := Run.adding_ok reported
      obtain ⟨processed, skipped, names⟩ := reports later found
      exact ⟨congrArg (file :: ·) processed, skipped, names⟩
    · have taken : takeTurn conversion disk candidate = ⟨candidate, disk, .error failure, world.disk⟩ := by
        rw [takeTurn, performed]
      rw [taken] at ends reports
      rw [turn, turnsOn, taken, afterTurns, List.foldl_cons, ← afterTurns, taken]
      refine ⟨ends, fun report reported => ?_⟩
      obtain ⟨later, found, rfl⟩ := Run.adding_ok reported
      obtain ⟨processed, skipped, names⟩ := reports later found
      have recorded : (Turn.mk candidate disk (.error failure) world.disk).skipped? = some file := by
        simp only [Turn.skipped?, skips]
        rfl
      refine ⟨processed, ?_, ?_⟩
      · rw [List.filterMap_cons_some recorded, ← skipped, List.singleton_append]
      · rw [List.singleton_append, List.map_cons, names, named]
        rfl

theorem changes_cons (conversion : Conversion) (disk : Disk) (candidate : Candidate) (rest : List Candidate) :
    changes conversion disk (candidate :: rest) =
      ((takeTurn conversion disk candidate).change? conversion).toList ++
        changes conversion (takeTurn conversion disk candidate).after rest := by
  rw [changes, turnsOn, List.filterMap_cons]
  cases (takeTurn conversion disk candidate).change? conversion <;> rfl

theorem Turn.place?_of_change? {turn : Turn} {change : Change}
    (changes : turn.change? conversion = some change) :
    turn.before.place? (Bytes.ofText (conversion.outputPath turn.candidate)) = some change.location := by
  rw [Turn.change?] at changes
  split at changes
  · cases changes
  · next place named =>
    rw [named]
    split at changes
    · obtain ⟨content, -, rfl⟩ := Option.map_eq_some_iff.1 changes
      rfl
    · split at changes
      · cases changes
      · cases changes
        rfl

/-- No temporary entry can come to stand at the location. -/
def Settled (disk : Disk) (location : Location) : Prop :=
  (∃ name parent, location = .plain name :: parent) ∨ disk.files.get? location ≠ none

theorem takeTurn_settled (writes : conversion.dryRun = false) {disk : Disk} {location : Location}
    (settled : Settled disk location) (candidate : Candidate) :
    (takeTurn conversion disk candidate).after.files.get? location =
        changed disk.files.get? ((takeTurn conversion disk candidate).change? conversion).toList location ∧
      Settled (takeTurn conversion disk candidate).after location := by
  have drops := takeTurn_drops writes disk candidate
  by_cases plain : ∃ name parent, location = .plain name :: parent
  · obtain ⟨name, parent, rfl⟩ := plain
    exact ⟨drops.get?_plain name parent, .inl ⟨name, parent, rfl⟩⟩
  have stood := settled.resolve_left plain
  -- Changes are made at plain names only.
  have kept : changed disk.files.get? ((takeTurn conversion disk candidate).change? conversion).toList
      location = disk.files.get? location := by
    cases made : (takeTurn conversion disk candidate).change? conversion with
    | none => rfl
    | some change =>
      obtain ⟨name, directory, same, -⟩ := Disk.exists_of_place? (Turn.place?_of_change? made)
      exact Function.update_of_ne (fun here => plain ⟨name, directory, here.trans same⟩) _ _
  have same := drops.get?_of_ne_none (by rwa [kept])
  exact ⟨same, .inr (by rwa [same, kept])⟩

/-- Behind the turns an entry is what the last change at its location made it. -/
theorem get?_afterTurns (writes : conversion.dryRun = false) {disk : Disk} {location : Location}
    (settled : Settled disk location) (candidates : List Candidate) :
    (afterTurns conversion disk candidates).files.get? location =
      changed disk.files.get? (changes conversion disk candidates) location := by
  induction candidates generalizing disk with
  | nil => rfl
  | cons candidate rest ih =>
    obtain ⟨first, settled⟩ := takeTurn_settled writes settled candidate
    rw [afterTurns, List.foldl_cons, ← afterTurns, ih settled, changes_cons, changed_append,
      changed_congr first]

theorem place_of_change? (writes : conversion.dryRun = false) {disk : Disk} {candidate : Candidate}
    {change : Change} (made : (takeTurn conversion disk candidate).change? conversion = some change) :
    disk.place? (Bytes.ofText (conversion.outputPath candidate)) = some change.location ∧
      disk.files.get? change.location ≠ some .directory ∧ change.entry? ≠ some .directory ∧
      ∀ target, change.entry? ≠ some (.link target) := by
  rcases takeTurn_cases writes disk candidate with
    ⟨failure, -, none_, -⟩ | ⟨failure, place, entry, -, named, stands, other, some_, -⟩ |
      ⟨content, place, -, named, free, -, some_, -⟩
  · cases none_.symm.trans made
  · cases some_.symm.trans made
    exact ⟨named, fun same => other (Option.some.inj (stands.symm.trans same)), by simp, by simp⟩
  · cases some_.symm.trans made
    exact ⟨named, free, by simp, by simp⟩

theorem takeTurn_becomes (writes : conversion.dryRun = false) {disk : Disk} (linkFree : disk.files.LinkFree)
    (candidate : Candidate) :
    disk.Becomes (changed disk.files.get? ((takeTurn conversion disk candidate).change? conversion).toList)
        (takeTurn conversion disk candidate).after ∧
      (takeTurn conversion disk candidate).after.files.LinkFree := by
  have drops := takeTurn_drops writes disk candidate
  cases made : (takeTurn conversion disk candidate).change? conversion with
  | none =>
    rw [made] at drops
    have becomes := drops.becomes linkFree linkFree fun _ => id
    exact ⟨becomes, by rwa [FileSystem.LinkFree, becomes.files]⟩
  | some change =>
    obtain ⟨-, free, -, noLink⟩ := place_of_change? writes made
    rw [made] at drops
    have becomes := drops.becomes_update linkFree free noLink
    refine ⟨becomes, ?_⟩
    rw [FileSystem.LinkFree, becomes.files]
    exact FileSystem.update_ne_link linkFree noLink

theorem afterTurns_becomes (writes : conversion.dryRun = false) {disk : Disk} (linkFree : disk.files.LinkFree)
    (candidates : List Candidate) :
    disk.Becomes (changed disk.files.get? (changes conversion disk candidates))
      (afterTurns conversion disk candidates) := by
  induction candidates generalizing disk with
  | nil => exact .refl disk
  | cons candidate rest ih =>
    obtain ⟨first, linkFree⟩ := takeTurn_becomes writes linkFree candidate
    have onward := first.trans (ih linkFree)
    rwa [first.files, ← changed_append, ← changes_cons] at onward

theorem prepareOutput_snd (source output : String) (disk : Disk) :
    ∃ faults, faults <:+ (Disk.createDirectories (Bytes.ofText output) disk).2.faults ∧
      (prepareOutput source output disk).2 =
        { (Disk.createDirectories (Bytes.ofText output) disk).2 with faults } := by
  rw [prepareOutput]
  split
  · next made =>
    rw [made]
    exact ⟨_, List.suffix_rfl, rfl⟩
  · next after made =>
    rw [made]
    refine ⟨after.faults.tail.tail, (List.tail_suffix _).trans (List.tail_suffix _), ?_⟩
    simp only
    split
    · split <;> simp [Disk.realPath_snd]
    · simp [Disk.realPath_snd]

/-- The output directory is made; looking where it and the source are uses up faults at most. -/
theorem ready_eq (writes : conversion.dryRun = false) (disk : Disk) :
    ∃ faults, faults <:+ (Disk.createDirectories (Bytes.ofText conversion.outputDirectory) disk).2.faults ∧
      ready conversion disk =
        { (Disk.createDirectories (Bytes.ofText conversion.outputDirectory) disk).2 with faults } := by
  rw [ready, writes, if_neg Bool.false_ne_true]
  exact prepareOutput_snd _ _ disk

theorem ready_gains (conversion : Conversion) (disk : Disk) : disk.Gains (ready conversion disk) := by
  cases writes : conversion.dryRun with
  | true =>
    rw [ready, writes, if_pos rfl]
    exact .refl disk
  | false =>
    obtain ⟨faults, isSuffix, same⟩ := ready_eq writes disk
    have gains := Disk.createDirectories_gains (Bytes.ofText conversion.outputDirectory) disk
    rw [same]
    exact { gains with faults := isSuffix.trans gains.faults }

theorem ready_quiet (writes : conversion.dryRun = false) {disk : Disk} (noFaults : disk.faults = []) :
    ready conversion disk = (Disk.createDirectories (Bytes.ofText conversion.outputDirectory) disk).2 := by
  obtain ⟨faults, isSuffix, same⟩ := ready_eq writes disk
  have made := (Disk.createDirectories_gains (Bytes.ofText conversion.outputDirectory) disk).quiet noFaults
  rw [made, List.suffix_nil] at isSuffix
  rw [same, isSuffix, ← made]

/-- A run to the end that nobody interferes with and that is no dry run: what it selected, and its disk
and report as the turns left them. -/
theorem run_watch {settings : Settings} {disk : Disk} {report : Report}
    (finished : (run settings false watch () disk).outcome = .ok report) :
    ∃ conversion candidates world, settings.conversion false = .ok conversion ∧
      settings.source = some conversion.sourceDirectory ∧ conversion.dryRun = false ∧
      (Selection.select conversion.sourceDirectory settings.markers settings.suffix).perform { disk } =
        (.ok candidates, world) ∧
      (∃ faults, faults <:+ disk.faults ∧ world.disk = { disk with faults }) ∧
      (run settings false watch () disk).disk =
        afterTurns conversion (ready conversion world.disk) candidates ∧
      report.processed =
        (turnsOn conversion (ready conversion world.disk) candidates).filterMap Turn.converted? ∧
      report.skipped.map Skipped.name =
        (turnsOn conversion (ready conversion world.disk) candidates).filterMap Turn.failed? := by
  rcases run_cases settings false watch () disk with
    ⟨problem, invalid, ran⟩ | ⟨valid, source, cause, world, given, selected, ran⟩ |
      ⟨valid, conversion, candidates, world, given, converts, selected, ran⟩
  · rw [ran] at finished
    cases finished
  · rw [ran] at finished
    cases finished
  · rw [ran] at finished ⊢
    obtain ⟨later, reported, -, whole, -, -, final⟩ :=
      runSelected_spec conversion watch () world.disk candidates
    cases whole.symm.trans finished
    have writes := dryRun_of_conversion converts
    obtain ⟨ends, reports⟩ := convertAll_watch conversion (ready conversion world.disk) 0 candidates
    obtain ⟨processed, -, skipped⟩ := reports report reported
    exact ⟨conversion, candidates, world, converts, given, writes, selected,
      Selection.select_readsOnly.disk_eq selected, final.trans ends, processed, skipped⟩

theorem validate_of_finished {settings : Settings} {dryRun : Bool} {State : Type} {observe : Observer State}
    {state : State} {disk : Disk} {report : Report}
    (finished : (run settings dryRun observe state disk).outcome = .ok report) :
    settings.validate = .ok () := by
  rcases run_cases settings dryRun observe state disk with ⟨_, _, ran⟩ | ⟨valid, _⟩ | ⟨valid, _⟩
  · rw [ran] at finished
    cases finished
  · exact valid
  · exact valid

theorem run_turns {settings : Settings} {disk : Disk} {candidates : List Candidate} {world : World}
    (valid : settings.validate = .ok ()) (converts : settings.conversion false = .ok conversion)
    (selected : (Selection.select conversion.sourceDirectory settings.markers settings.suffix).perform
      { disk } = (.ok candidates, world)) :
    (run settings false watch () disk).outcome =
        .ok ⟨(turnsOn conversion (ready conversion world.disk) candidates).filterMap Turn.converted?,
          (turnsOn conversion (ready conversion world.disk) candidates).filterMap Turn.skipped?⟩ ∧
      (run settings false watch () disk).disk =
        afterTurns conversion (ready conversion world.disk) candidates := by
  obtain ⟨report, reported, -, whole, -, -, final⟩ :=
    runSelected_spec conversion watch () world.disk candidates
  obtain ⟨ends, reports⟩ := convertAll_watch conversion (ready conversion world.disk) 0 candidates
  obtain ⟨processed, skipped, -⟩ := reports report reported
  have ran : run settings false watch () disk =
      (runSelected conversion watch () world.disk candidates).after (world.log.map Notice.record) := by
    simp only [run, valid, converts, selected]
  rw [ran, ← processed, ← skipped]
  exact ⟨whole, final.trans ends⟩

theorem Turn.converted?_eq_some_iff {turn : Turn} {file : Converted} :
    turn.converted? = some file ↔ turn.outcome = .ok file := by
  rw [converted?]
  cases turn.outcome <;> simp [Except.toOption]

theorem Turn.failed?_eq_some_iff {turn : Turn} {name : String} :
    turn.failed? = some name ↔ (∃ failure, turn.outcome = .error failure) ∧ turn.candidate.name = name := by
  rw [failed?]
  cases turn.outcome <;> simp

theorem map_candidate_turnsOn (conversion : Conversion) (disk : Disk) (candidates : List Candidate) :
    (turnsOn conversion disk candidates).map Turn.candidate = candidates := by
  induction candidates generalizing disk with
  | nil => rfl
  | cons candidate rest ih =>
    rw [turnsOn, List.map_cons, ih]
    rfl

theorem mem_turnsOn_of_mem {disk : Disk} {candidates : List Candidate} {candidate : Candidate}
    (chosen : candidate ∈ candidates) :
    ∃ turn ∈ turnsOn conversion disk candidates, turn.candidate = candidate := by
  rw [← map_candidate_turnsOn conversion disk candidates] at chosen
  exact List.mem_map.1 chosen

theorem candidate_mem {disk : Disk} {candidates : List Candidate} {turn : Turn}
    (member : turn ∈ turnsOn conversion disk candidates) : turn.candidate ∈ candidates := by
  rw [← map_candidate_turnsOn conversion disk candidates]
  exact List.mem_map_of_mem member

end Retag.Batch
