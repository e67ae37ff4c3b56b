import Retag.Batch.Run
import Retag.Proofs.Candidate.Selection
import Retag.Proofs.Conversion.Failures

/-! What a batch tells. Events and report grow together, one candidate at a time, whatever the
observer does to the disk in between; no failure of a single file ends the batch. Main statement: a
run is refused before its first event, or it tells of every selected candidate once and in order,
and its report holds just what was told.
-/

set_option autoImplicit false

namespace Retag.Batch

variable {State : Type}

namespace Event

def written? : Event → Option Converted
  | .fileWritten _ file => some file
  | _ => none

def skipped? : Event → Option Skipped
  | .fileSkipped _ file => some file
  | _ => none

def TellsOf (index : Nat) (candidate : Candidate) : Event → Prop
  | .fileWritten at_ file => at_ = index ∧ file.name = candidate.name
  | .fileSkipped at_ file => at_ = index ∧ file.name = candidate.name
  | _ => False

end Event

def Run.events (run : Run State) : List Event := run.notices.filterMap Notice.event?

/-- Events and report of candidates whose positions count from `index`. -/
inductive Told : Nat → List Candidate → List Event → Report → Prop where
  | done {index : Nat} : Told index [] [] ⟨[], []⟩
  | written {index : Nat} {candidate : Candidate} {rest : List Candidate} {events : List Event}
      {report : Report} {file : Converted} : file.name = candidate.name →
      Told (index + 1) rest events report →
      Told index (candidate :: rest) (.fileWritten index file :: events)
        ⟨file :: report.processed, report.skipped⟩
  | skipped {index : Nat} {candidate : Candidate} {rest : List Candidate} {events : List Event}
      {report : Report} {file : Skipped} : file.name = candidate.name →
      Told (index + 1) rest events report →
      Told index (candidate :: rest) (.fileSkipped index file :: events)
        ⟨report.processed, file :: report.skipped⟩

namespace Told

variable {index : Nat} {candidates : List Candidate} {events : List Event} {report : Report}

theorem length_eq (told : Told index candidates events report) : events.length = candidates.length := by
  induction told with
  | done => rfl
  | written _ _ ih => simp [ih]
  | skipped _ _ ih => simp [ih]

theorem processed_eq (told : Told index candidates events report) :
    report.processed = events.filterMap Event.written? := by
  induction told with
  | done => rfl
  | written _ _ ih => simp [Event.written?, ih]
  | skipped _ _ ih => rw [ih, List.filterMap_cons_none rfl]

theorem skipped_eq (told : Told index candidates events report) :
    report.skipped = events.filterMap Event.skipped? := by
  induction told with
  | done => rfl
  | written _ _ ih => rw [ih, List.filterMap_cons_none rfl]
  | skipped _ _ ih => simp [Event.skipped?, ih]

theorem total_eq (told : Told index candidates events report) : report.total = candidates.length := by
  induction told with
  | done => rfl
  | written _ _ ih => simp only [Report.total, List.length_cons] at ih ⊢; omega
  | skipped _ _ ih => simp only [Report.total, List.length_cons] at ih ⊢; omega

theorem isSuccess_iff (told : Told index candidates events report) :
    report.isSuccess = true ↔ ∀ event ∈ events, event.skipped? = none := by
  rw [Report.isSuccess, told.skipped_eq, List.isEmpty_iff, List.filterMap_eq_nil_iff]

theorem writeFailures_eq (told : Told index candidates events report) :
    report.writeFailures =
      events.countP fun event => event.skipped?.any fun file => file.reason = .writeFailed := by
  rw [Report.writeFailures, told.skipped_eq, ← List.countP_eq_length_filter, List.countP_filterMap]
  refine List.countP_congr fun event _ => ?_
  cases event.skipped? <;> simp

theorem tellsOf (told : Told index candidates events report) (position : Nat) (candidate : Candidate)
    (selected : candidates[position]? = some candidate) :
    ∃ event, events[position]? = some event ∧ event.TellsOf (index + position) candidate := by
  induction told generalizing position with
  | done => cases selected
  | written same _ ih =>
    cases position with
    | zero => cases selected; exact ⟨_, rfl, rfl, same⟩
    | succ position =>
      obtain ⟨event, found, tells⟩ := ih position selected
      exact ⟨event, found, by rwa [Nat.add_assoc, Nat.add_comm 1] at tells⟩
  | skipped same _ ih =>
    cases position with
    | zero => cases selected; exact ⟨_, rfl, rfl, same⟩
    | succ position =>
      obtain ⟨event, found, tells⟩ := ih position selected
      exact ⟨event, found, by rwa [Nat.add_assoc, Nat.add_comm 1] at tells⟩

end Told

theorem events_after (earlier : List Notice) (run : Run State) :
    (run.after earlier).events = earlier.filterMap Notice.event? ++ run.events :=
  List.filterMap_append

theorem filterMap_record (log : List Log.Record) :
    (log.map Notice.record).filterMap Notice.event? = [] := by
  rw [List.filterMap_map, List.filterMap_eq_nil_iff]
  intro record _
  rfl

theorem skip_of_recoverable (candidate : Candidate) {failure : Failure}
    (recoverable : failure.isFatal = false) :
    ∃ file record, skip candidate failure = .ok (file, record) ∧ file.name = candidate.name := by
  cases failure with
  | unreadable path cause => exact ⟨_, _, rfl, rfl⟩
  | unwritable path cause => exact ⟨_, _, rfl, rfl⟩
  | sourceUnavailable path cause => cases recoverable
  | invalidSettings origin problem => cases recoverable
  | io cause => cases recoverable

theorem name_of_perform {conversion : Conversion} {candidate : Candidate} {world final : World}
    {file : Converted} (performed : (conversion.run candidate).perform world = (.ok file, final)) :
    file.name = candidate.name := by
  rcases Action.perform_bind_cases performed with ⟨failure, -, same⟩ | ⟨source, opened, -, performed⟩
  · cases same
  rcases Action.perform_bind_cases performed with ⟨failure, -, same⟩ | ⟨tally, converted, -, performed⟩
  · cases same
  rcases Action.perform_bind_cases performed with ⟨failure, -, same⟩ | ⟨⟨⟩, noted, -, performed⟩
  · cases same
  cases performed
  rfl

/-! ## One candidate after another -/

/-- A candidate's turn: it is converted or skipped, the observer is told of that, and the rest go on
from where the observer left things. -/
theorem convertAll_cons (conversion : Conversion) (observe : Observer State) (state : State) (disk : Disk)
    (index : Nat) (candidate : Candidate) (rest : List Candidate) :
    (∃ file world, (conversion.run candidate).perform { disk } = (.ok file, world) ∧
      file.name = candidate.name ∧
      convertAll conversion observe state disk index (candidate :: rest) =
        ((convertAll conversion observe (observe (.fileWritten index file) state world.disk).1
          (observe (.fileWritten index file) state world.disk).2 (index + 1) rest).adding [file] []).after
          (world.log.map Notice.record ++ [.event (.fileWritten index file)])) ∨
    ∃ failure file record world, (conversion.run candidate).perform { disk } = (.error failure, world) ∧
      skip candidate failure = .ok (file, record) ∧ file.name = candidate.name ∧
      convertAll conversion observe state disk index (candidate :: rest) =
        ((convertAll conversion observe (observe (.fileSkipped index file) state world.disk).1
          (observe (.fileSkipped index file) state world.disk).2 (index + 1) rest).adding [] [file]).after
          (world.log.map Notice.record ++ [.record record, .event (.fileSkipped index file)]) := by
  cases performed : (conversion.run candidate).perform { disk } with
  | mk outcome world =>
    cases outcome with
    | ok file =>
      refine .inl ⟨file, world, rfl, name_of_perform performed, ?_⟩
      simp only [convertAll, performed]
    | error failure =>
      -- Only a fatal failure would end the batch here, and a conversion has none.
      have recoverable := (Conversion.run_failsOnly conversion candidate _ _ _ performed).isFatal_eq_false
      obtain ⟨file, record, skipped, same⟩ := skip_of_recoverable candidate recoverable
      refine .inr ⟨failure, file, record, world, rfl, skipped, same, ?_⟩
      simp only [convertAll, performed, skipped]

theorem convertAll_told (conversion : Conversion) (observe : Observer State) (state : State)
    (disk : Disk) (index : Nat) (candidates : List Candidate) :
    ∃ report, (convertAll conversion observe state disk index candidates).outcome = .ok report ∧
      Told index candidates (convertAll conversion observe state disk index candidates).events report := by
  induction candidates generalizing state disk index with
  | nil => exact ⟨_, rfl, .done⟩
  | cons candidate rest ih =>
    rcases convertAll_cons conversion observe state disk index candidate rest with
      ⟨file, world, -, named, turn⟩ | ⟨failure, file, record, world, -, -, named, turn⟩
    · obtain ⟨report, reported, told⟩ := ih (observe (.fileWritten index file) state world.disk).1
        (observe (.fileWritten index file) state world.disk).2 (index + 1)
      refine ⟨⟨file :: report.processed, report.skipped⟩, ?_, ?_⟩
      · rw [turn, Run.after, Run.adding, reported]; rfl
      · rw [turn, events_after, List.filterMap_append, filterMap_record]
        exact .written named told
    · obtain ⟨report, reported, told⟩ := ih (observe (.fileSkipped index file) state world.disk).1
        (observe (.fileSkipped index file) state world.disk).2 (index + 1)
      refine ⟨⟨report.processed, file :: report.skipped⟩, ?_, ?_⟩
      · rw [turn, Run.after, Run.adding, reported]; rfl
      · rw [turn, events_after, List.filterMap_append, filterMap_record]
        exact .skipped named told

/-- The disk on which a batch begins. -/
def ready (conversion : Conversion) (disk : Disk) : Disk :=
  if conversion.dryRun then disk
  else (prepareOutput conversion.sourceDirectory conversion.outputDirectory disk).2

def convertSelected (conversion : Conversion) (observe : Observer State) (state : State) (disk : Disk)
    (candidates : List Candidate) : Run State :=
  let started := observe (.started candidates.length) state (ready conversion disk)
  convertAll conversion observe started.1 started.2 0 candidates

theorem runSelected_spec (conversion : Conversion) (observe : Observer State) (state : State)
    (disk : Disk) (candidates : List Candidate) :
    ∃ report, (convertSelected conversion observe state disk candidates).outcome = .ok report ∧
      Told 0 candidates (convertSelected conversion observe state disk candidates).events report ∧
      (runSelected conversion observe state disk candidates).outcome = .ok report ∧
      (runSelected conversion observe state disk candidates).events =
        .started candidates.length :: (convertSelected conversion observe state disk candidates).events ++
          [.finished report.processed.length report.skipped.length] ∧
      (runSelected conversion observe state disk candidates).state =
        (observe (.finished report.processed.length report.skipped.length)
          (convertSelected conversion observe state disk candidates).state
          (convertSelected conversion observe state disk candidates).disk).1 ∧
      (runSelected conversion observe state disk candidates).disk =
        (observe (.finished report.processed.length report.skipped.length)
          (convertSelected conversion observe state disk candidates).state
          (convertSelected conversion observe state disk candidates).disk).2 := by
  obtain ⟨report, reported, told⟩ := convertAll_told conversion observe
    (observe (.started candidates.length) state (ready conversion disk)).1
    (observe (.started candidates.length) state (ready conversion disk)).2 0 candidates
  refine ⟨report, reported, told, ?_⟩
  unfold runSelected convertSelected
  generalize prepared : (if conversion.dryRun = true then ([], disk)
    else prepareOutput conversion.sourceDirectory conversion.outputDirectory disk) = preparation
  have begins : ready conversion disk = preparation.2 := by
    rw [ready, ← prepared]
    split <;> rfl
  rw [begins] at reported ⊢
  simp only [Run.after, reported, Run.events, List.filterMap_append, filterMap_record]
  exact ⟨trivial, rfl, trivial, trivial⟩

/-! ## What the observer sees -/

/-- The observer's state keeps what `seen` reads from it, with every event at the end. -/
def Observer.Keeps (observe : Observer State) (seen : State → List Event) : Prop :=
  ∀ event state disk, seen (observe event state disk).1 = seen state ++ [event]

variable {conversion : Conversion} {observe : Observer State} {seen : State → List Event}

theorem convertAll_seen (keeps : observe.Keeps seen) (candidates : List Candidate) (state : State)
    (disk : Disk) (index : Nat) :
    seen (convertAll conversion observe state disk index candidates).state =
      seen state ++ (convertAll conversion observe state disk index candidates).events := by
  induction candidates generalizing state disk index with
  | nil => exact (List.append_nil _).symm
  | cons candidate rest ih =>
    rcases convertAll_cons conversion observe state disk index candidate rest with
      ⟨file, world, -, -, turn⟩ | ⟨failure, file, record, world, -, -, -, turn⟩
    · rw [turn, events_after, List.filterMap_append, filterMap_record]
      simp only [Run.after, Run.adding]
      rw [ih, keeps, List.append_assoc]
      rfl
    · rw [turn, events_after, List.filterMap_append, filterMap_record]
      simp only [Run.after, Run.adding]
      rw [ih, keeps, List.append_assoc]
      rfl

theorem runSelected_seen (keeps : observe.Keeps seen) (candidates : List Candidate) (state : State)
    (disk : Disk) :
    seen (runSelected conversion observe state disk candidates).state =
      seen state ++ (runSelected conversion observe state disk candidates).events := by
  obtain ⟨report, -, -, -, events, final, -⟩ :=
    runSelected_spec conversion observe state disk candidates
  rw [events, final, keeps, convertSelected, convertAll_seen keeps, keeps]
  simp

/-! ## Whole runs -/

theorem run_cases (settings : Settings) (dryRun : Bool) (observe : Observer State) (state : State)
    (disk : Disk) :
    (∃ problem, settings.validate = .error (.invalidSettings Settings.mergedOrigin problem) ∧
      run settings dryRun observe state disk =
        ⟨.error (.invalidSettings Settings.mergedOrigin problem), [], state, disk⟩) ∨
    (settings.validate = .ok () ∧ ∃ source cause world, settings.source = some source ∧
      (Selection.select source settings.markers settings.suffix).perform { disk } =
        (.error (.sourceUnavailable source cause), world) ∧
      run settings dryRun observe state disk =
        ⟨.error (.sourceUnavailable source cause), world.log.map Notice.record, state, world.disk⟩) ∨
    (settings.validate = .ok () ∧ ∃ conversion candidates world,
      settings.source = some conversion.sourceDirectory ∧ settings.conversion dryRun = .ok conversion ∧
      (Selection.select conversion.sourceDirectory settings.markers settings.suffix).perform { disk } =
        (.ok candidates, world) ∧
      run settings dryRun observe state disk =
        (runSelected conversion observe state world.disk candidates).after
          (world.log.map Notice.record)) := by
  cases refused : settings.problem? with
  | some problem =>
    have invalid : settings.validate = .error (.invalidSettings Settings.mergedOrigin problem) := by
      rw [Settings.validate, refused]
    exact .inl ⟨problem, invalid, by rw [run, invalid]⟩
  | none =>
    have valid : settings.validate = .ok () := by rw [Settings.validate, refused]
    cases given : settings.source with
    | none => simp [Settings.problem?, given] at refused
    | some source =>
      have converts : settings.conversion dryRun =
          .ok ⟨source, settings.output, settings.table, settings.lineEnding, dryRun⟩ := by
        simp only [Settings.conversion, Settings.sourceDirectory, given]
        rfl
      cases selected : (Selection.select source settings.markers settings.suffix).perform { disk } with
      | mk selection world =>
        cases selection with
        | error failure =>
          obtain ⟨cause, rfl⟩ := Selection.select_failsOnly _ _ _ selected
          refine .inr (.inl ⟨valid, source, cause, world, rfl, selected, ?_⟩)
          simp only [run, valid, converts, selected]
        | ok candidates =>
          refine .inr (.inr ⟨valid, _, candidates, world, rfl, converts, selected, ?_⟩)
          simp only [run, valid, converts, selected]

theorem dryRun_of_conversion {settings : Settings} {dryRun : Bool} {conversion : Conversion}
    (converts : settings.conversion dryRun = .ok conversion) : conversion.dryRun = dryRun := by
  obtain ⟨source, -, made⟩ := bind_eq_ok_iff.1 converts
  cases made
  rfl

theorem run_finishes {settings : Settings} {dryRun : Bool} (observe : Observer State) (state : State)
    {disk : Disk} {conversion : Conversion} {candidates : List Candidate} {world : World}
    (valid : settings.validate = .ok ()) (converts : settings.conversion dryRun = .ok conversion)
    (selected : (Selection.select conversion.sourceDirectory settings.markers settings.suffix).perform
      { disk } = (.ok candidates, world)) :
    ∃ report, (run settings dryRun observe state disk).outcome = .ok report := by
  obtain ⟨report, -, -, finished, -⟩ := runSelected_spec conversion observe state world.disk candidates
  refine ⟨report, ?_⟩
  simp only [run, valid, converts, selected]
  exact finished

/-- A run that ends with an error has refused its settings or could not list its source directory; no
event happened and the files are as before. Every other run tells the start, then of each candidate
selected at the start in its turn, then the end, and its report is the record of that. The observer
sees just these events; what it does to the disk at each of them has no part in this. -/
theorem run_protocol (settings : Settings) (dryRun : Bool) (observe : Observer State) (state : State)
    (disk : Disk) :
    (∀ failure, (run settings dryRun observe state disk).outcome = .error failure →
      ((settings.validate = .error failure ∧
          ∃ problem, failure = .invalidSettings Settings.mergedOrigin problem) ∨
        (settings.validate = .ok () ∧ ∃ source cause, settings.source = some source ∧
          failure = .sourceUnavailable source cause)) ∧
      (run settings dryRun observe state disk).events = [] ∧
      (run settings dryRun observe state disk).state = state ∧
      (run settings dryRun observe state disk).disk.files = disk.files ∧
      (run settings dryRun observe state disk).disk.workingDirectory = disk.workingDirectory) ∧
    ((∃ origin problem, (run settings dryRun observe state disk).outcome =
        .error (.invalidSettings origin problem)) ↔ settings.validate ≠ .ok ()) ∧
    (∀ seen, observe.Keeps seen → seen (run settings dryRun observe state disk).state =
      seen state ++ (run settings dryRun observe state disk).events) ∧
    ∀ report, (run settings dryRun observe state disk).outcome = .ok report →
      ∃ source candidates files, settings.source = some source ∧
        ((Selection.select source settings.markers settings.suffix).perform { disk }).1 =
          .ok candidates ∧
        (run settings dryRun observe state disk).events = .started candidates.length :: files ++
          [.finished report.processed.length report.skipped.length] ∧
        files.length = candidates.length ∧
        (∀ (index : Nat) (candidate : Candidate), candidates[index]? = some candidate →
          ∃ event, files[index]? = some event ∧ event.TellsOf index candidate) ∧
        report.processed = files.filterMap Event.written? ∧
        report.skipped = files.filterMap Event.skipped? ∧
        report.total = candidates.length ∧
        (report.isSuccess = true ↔ ∀ event ∈ files, event.skipped? = none) ∧
        report.writeFailures =
          files.countP fun event => event.skipped?.any fun file => file.reason = .writeFailed := by
  rcases run_cases settings dryRun observe state disk with
    ⟨problem, invalid, ran⟩ | ⟨valid, source, cause, world, given, selected, ran⟩ |
      ⟨valid, conversion, candidates, world, given, converts, selected, ran⟩
  · rw [ran]
    refine ⟨fun failure failed => ?_, ?_, fun seen _ => (List.append_nil _).symm,
      fun report reported => nomatch reported⟩
    · cases failed
      exact ⟨.inl ⟨invalid, problem, rfl⟩, rfl, rfl, rfl, rfl⟩
    · exact iff_of_true ⟨_, problem, rfl⟩ (by simp [invalid])
  · obtain ⟨faults, -, same⟩ := Selection.select_readsOnly.disk_eq selected
    rw [ran]
    refine ⟨fun failure failed => ?_, ?_, fun seen _ => ?_, fun report reported => nomatch reported⟩
    · cases failed
      refine ⟨.inr ⟨valid, source, cause, given, rfl⟩, filterMap_record _, rfl, ?_, ?_⟩
      · rw [same]
      · rw [same]
    · exact iff_of_false (by rintro ⟨origin, problem, ⟨⟩⟩) (by simp [valid])
    -- Selection only writes to the log.
    · rw [Run.events, filterMap_record, List.append_nil]
  · obtain ⟨report, -, told, reported, events, -⟩ :=
      runSelected_spec conversion observe state world.disk candidates
    rw [ran]
    refine ⟨fun failure failed => ?_, ?_, fun seen keeps => ?_, fun other same => ?_⟩
    · cases reported.symm.trans failed
    · refine iff_of_false ?_ (by simp [valid])
      rintro ⟨origin, problem, failed⟩
      cases reported.symm.trans failed
    · rw [events_after, filterMap_record, List.nil_append]
      exact runSelected_seen keeps candidates state world.disk
    · cases reported.symm.trans same
      refine ⟨_, candidates, _, given, by rw [selected], ?_, told.length_eq, ?_, told.processed_eq,
        told.skipped_eq, told.total_eq, told.isSuccess_iff, told.writeFailures_eq⟩
      · rw [events_after, filterMap_record, events, List.nil_append]
      · intro index candidate chosen
        obtain ⟨event, found, tells⟩ := told.tellsOf index candidate chosen
        exact ⟨event, found, by rwa [Nat.zero_add] at tells⟩

end Retag.Batch
